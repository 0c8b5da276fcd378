import Gatehouse.Proofs.Text.Bytes
import Gatehouse.Write.Envelope
import Mathlib

/-! # What a derived key tells about its write

A derived key is the digest of the four coordinates of a write, which are joined
by bars with nothing escaped. As far as the digest is free of collisions the key
tells the joined text, and the joined text tells the coordinates once it is
known how many bars there are in the task, in the execution and in the command.
Writes that agree in these numbers share a key only if they agree in all four
coordinates; writes that do not may share one.
-/

namespace Gatehouse

/-- When a separator comes after as many others in both, equal texts are split alike by it. -/
theorem append_cons_inj_of_count {α : Type} [DecidableEq α] {bar : α}
    {front front' back back' : List α} (hjoined : front ++ bar :: back = front' ++ bar :: back')
    (hcount : front.count bar = front'.count bar) : front = front' ∧ back = back' := by
  induction front generalizing front' with
  | nil =>
      cases front' with
      | nil => exact ⟨rfl, List.tail_eq_of_cons_eq hjoined⟩
      | cons head rest =>
          -- The longer front would begin with the bar that ends the shorter one.
          obtain ⟨rfl, _⟩ := List.cons.inj hjoined
          simp at hcount
  | cons head rest ih =>
      cases front' with
      | nil =>
          obtain ⟨rfl, _⟩ := List.cons.inj hjoined
          simp at hcount
      | cons head' rest' =>
          obtain ⟨rfl, hrest⟩ := List.cons.inj hjoined
          have hcounts : rest.count bar = rest'.count bar := by
            simpa [List.count_cons] using hcount
          obtain ⟨rfl, hback⟩ := ih hrest hcounts
          exact ⟨rfl, hback⟩

namespace Text

/-- The number that hexadecimal digits stand for. -/
def hexNumber (digits : List Char) : Nat :=
  (digits.filterMap hexValue?).foldl (fun n digit => 16 * n + digit) 0

/-- A byte is written with two hexadecimal digits, from which it can be read. -/
theorem hexPadded_byte (b : UInt8) : (hexPadded 2 b.toNat).toList.length = 2 ∧
    hexNumber (hexPadded 2 b.toNat).toList = b.toNat := by
  have hall : ∀ n < 256,
      (List.replicate (2 - (Nat.toDigits 16 n).length) '0' ++ Nat.toDigits 16 n).length = 2 ∧
      hexNumber (List.replicate (2 - (Nat.toDigits 16 n).length) '0' ++ Nat.toDigits 16 n) = n := by
    decide +kernel
  simpa only [hexPadded, String.toList_ofList] using hall b.toNat b.toNat_lt

theorem flatMap_hexPadded_injective : Function.Injective fun bytes : List UInt8 =>
    bytes.flatMap fun b => (hexPadded 2 b.toNat).toList := by
  intro first second hdigits
  induction first generalizing second with
  | nil =>
      cases second with
      | nil => rfl
      | cons b rest =>
          have hlength := congrArg List.length hdigits
          simp [(hexPadded_byte b).1] at hlength
          omega
  | cons a rest ih =>
      cases second with
      | nil =>
          have hlength := congrArg List.length hdigits
          simp [(hexPadded_byte a).1] at hlength
      | cons b rest' =>
          simp only [List.flatMap_cons] at hdigits
          obtain ⟨hfirst, hrest⟩ := List.append_inj hdigits
            ((hexPadded_byte a).1.trans (hexPadded_byte b).1.symm)
          have hvalue := congrArg hexNumber hfirst
          rw [(hexPadded_byte a).2, (hexPadded_byte b).2] at hvalue
          rw [UInt8.toNat_inj.mp hvalue, ih hrest]

end Text

namespace Sha256

theorem hexDigest_inj {message other : List UInt8} :
    hexDigest message = hexDigest other ↔ digest message = digest other := by
  refine ⟨fun hhex => ?_, fun hdigest => by rw [hexDigest, hdigest, ← hexDigest]⟩
  apply Text.flatMap_hexPadded_injective
  have hdigits := congrArg String.toList hhex
  simpa [hexDigest, String.toList_join, List.flatMap_map] using hdigits

end Sha256

/-- What the key of a write that comes without one is derived from. -/
structure Coordinates where
  task : String
  execution : String
  command : String
  resource : String
  deriving DecidableEq

namespace Coordinates

/-- The text that is digested. -/
def joined (c : Coordinates) : String :=
  WriteKey.preimage (some c.task) c.execution c.command c.resource

/-- The message that is digested. -/
def message (c : Coordinates) : List UInt8 :=
  Text.utf8 c.joined

/-- How many bars there are in the task, in the execution and in the command. -/
def bars (c : Coordinates) : Nat × Nat × Nat :=
  (c.task.toList.count '|', c.execution.toList.count '|', c.command.toList.count '|')

theorem toList_joined (c : Coordinates) : c.joined.toList = c.task.toList ++ '|' ::
    (c.execution.toList ++ '|' :: (c.command.toList ++ '|' :: c.resource.toList)) := by
  have hbar : "|".toList = ['|'] := rfl
  simp [joined, WriteKey.preimage, String.toList_append, hbar]

theorem eq_of_joined {c d : Coordinates} (hjoined : c.joined = d.joined) (hbars : c.bars = d.bars) :
    c = d := by
  simp only [bars, Prod.mk.injEq] at hbars
  obtain ⟨htasks, hexecutions, hcommands⟩ := hbars
  have htexts := congrArg String.toList hjoined
  rw [toList_joined, toList_joined] at htexts
  obtain ⟨htask, htexts⟩ := append_cons_inj_of_count htexts htasks
  obtain ⟨hexecution, htexts⟩ := append_cons_inj_of_count htexts hexecutions
  obtain ⟨hcommand, hresource⟩ := append_cons_inj_of_count htexts hcommands
  obtain ⟨task, execution, command, resource⟩ := c
  simp only [String.toList_inj] at htask hexecution hcommand hresource
  subst htask hexecution hcommand hresource
  rfl

end Coordinates

namespace Envelope

/-- The key of the write is derived, and these are the coordinates it is derived from. -/
structure DerivesFrom (e : Envelope) (c : Coordinates) : Prop where
  key : e.key = none
  task : e.task.getD "" = c.task
  execution : e.execution = some c.execution
  command : e.command = c.command
  resource : e.resource = c.resource

theorem DerivesFrom.resolvedKey_eq {e : Envelope} {c : Coordinates} (hderives : e.DerivesFrom c) :
    e.resolvedKey = some ⟨Sha256.hexDigest c.message⟩ := by
  have hpreimage : WriteKey.preimage e.task c.execution c.command c.resource = c.joined := by
    rw [Coordinates.joined, WriteKey.preimage, WriteKey.preimage, hderives.task, Option.getD_some]
  simp only [resolvedKey, hderives.key, hderives.execution, hderives.command, hderives.resource,
    Option.map_some, WriteKey.derive, hpreimage, Coordinates.message]

/-- Unless the digests of their joined coordinates collide, two writes without a supplied key agree
in all coordinates exactly if they share the derived key and place their bars alike. -/
theorem coordinates_eq_iff {e f : Envelope} {c d : Coordinates} (he : e.DerivesFrom c)
    (hf : f.DerivesFrom d)
    (hdigest : Sha256.digest c.message = Sha256.digest d.message → c.message = d.message) :
    c = d ↔ e.resolvedKey = f.resolvedKey ∧ c.bars = d.bars := by
  rw [he.resolvedKey_eq, hf.resolvedKey_eq]
  constructor
  · rintro rfl
    exact ⟨rfl, rfl⟩
  · rintro ⟨hkeys, hbars⟩
    have hhex := WriteKey.mk.inj (Option.some.inj hkeys)
    have hmessage := hdigest (Sha256.hexDigest_inj.mp hhex)
    exact Coordinates.eq_of_joined (Text.utf8_injective hmessage) hbars

/-- A write whose task ends behind a bar. -/
def barInTask : Envelope :=
  { new ⟨.ofNanos 0, "first", "", ""⟩ "publish_page" "editor" "site:page" .null with
    task := some "a|b", execution := some "c" }

/-- A write of another task with its bar in the same coordinate. -/
def barInOtherTask : Envelope :=
  { new ⟨.ofNanos 1, "second", "", ""⟩ "publish_page" "editor" "site:page" .null with
    task := some "b|a", execution := some "c" }

theorem barInTask_key_ne :
    barInTask.DerivesFrom ⟨"a|b", "c", "publish_page", "site:page"⟩ ∧
    barInOtherTask.DerivesFrom ⟨"b|a", "c", "publish_page", "site:page"⟩ ∧
    barInTask.resolvedKey ≠ barInOtherTask.resolvedKey := by
  have htask : barInTask.DerivesFrom ⟨"a|b", "c", "publish_page", "site:page"⟩ :=
    ⟨rfl, rfl, rfl, rfl, rfl⟩
  have hother : barInOtherTask.DerivesFrom ⟨"b|a", "c", "publish_page", "site:page"⟩ :=
    ⟨rfl, rfl, rfl, rfl, rfl⟩
  refine ⟨htask, hother, fun hkeys => ?_⟩
  have hdigests : Sha256.digest (Coordinates.message ⟨"a|b", "c", "publish_page", "site:page"⟩) ≠
      Sha256.digest (Coordinates.message ⟨"b|a", "c", "publish_page", "site:page"⟩) := by
    rw [Coordinates.message, Coordinates.message, Text.utf8_eq, Text.utf8_eq]
    decide +kernel
  have hsame := (coordinates_eq_iff htask hother fun hdigest => absurd hdigest hdigests).mpr
    ⟨hkeys, by decide⟩
  exact absurd hsame (by decide)

/-- A write whose execution begins before a bar. -/
def barInExecution : Envelope :=
  { new ⟨.ofNanos 2, "third", "", ""⟩ "publish_page" "editor" "site:page" .null with
    task := some "a", execution := some "b|c" }

/-- Two writes of different tasks and executions share their derived key, whatever the digest. -/
theorem barInTask_shares_key :
    barInTask.DerivesFrom ⟨"a|b", "c", "publish_page", "site:page"⟩ ∧
    barInExecution.DerivesFrom ⟨"a", "b|c", "publish_page", "site:page"⟩ ∧
    barInTask.resolvedKey = barInExecution.resolvedKey ∧
    barInTask.task.getD "" ≠ barInExecution.task.getD "" ∧
    barInTask.execution ≠ barInExecution.execution := by
  have htask : barInTask.DerivesFrom ⟨"a|b", "c", "publish_page", "site:page"⟩ :=
    ⟨rfl, rfl, rfl, rfl, rfl⟩
  have hexecution : barInExecution.DerivesFrom ⟨"a", "b|c", "publish_page", "site:page"⟩ :=
    ⟨rfl, rfl, rfl, rfl, rfl⟩
  have hjoined : Coordinates.joined ⟨"a|b", "c", "publish_page", "site:page"⟩ =
      Coordinates.joined ⟨"a", "b|c", "publish_page", "site:page"⟩ := by decide
  refine ⟨htask, hexecution, ?_, by decide, by decide⟩
  rw [htask.resolvedKey_eq, hexecution.resolvedKey_eq, Coordinates.message, hjoined,
    ← Coordinates.message]

end Envelope

end Gatehouse
