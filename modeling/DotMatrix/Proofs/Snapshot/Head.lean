import DotMatrix.Proofs.Snapshot.Number
import DotMatrix.Snapshot.Item.Reader
import DotMatrix.Snapshot.Item.Writer
import Mathlib.Tactic.IntervalCases

/-!
# Heads of items

Every head that the writer chooses, whichever of its forms that is, is one that the reader takes
for the same number, count or bytes; and the reader of heads never looks behind a head.

Results:
* `writeNatural_takes`, `writeInteger_takes`: numbers of up to 64 bits.
* `listHead_takes`, `tableHead_takes`, `extensionHead_takes`: counts of up to 32 bits.
* `name_takes`, `blob_takes`: bytes with their count.
* `Head.read_local`.
-/

namespace DotMatrix

namespace Item

namespace Head

theorem readNatural_takes {width n : Nat} (h : n < formsOf width) :
    Takes (readNatural width) (bigEndian width n) (.whole (.natural n)) :=
  (readBigEndian_takes h).map fun n => Head.whole (.natural n)

theorem readInteger_takes {width : Nat} {n : Int} (low : -(formsOf width : Int) ≤ 2 * n)
    (high : 2 * n < formsOf width) :
    Takes (readInteger width) (bigEndian width (complement width n)) (.whole (.integer n)) := by
  have taken := (readBigEndian_takes (complement_lt width n)).map fun n =>
    Head.whole (.integer (signed width n))
  rwa [signed_complement low high] at taken

theorem readCount_takes (count : Nat → Head) {width n : Nat} (h : n < formsOf width) :
    Takes (readCount count width) (bigEndian width n) (count n) :=
  (readBigEndian_takes h).map count

theorem readBytes_takes (item : List UInt8 → Item) (bytes : List UInt8) :
    Takes (readBytes item bytes.length) bytes (.whole (item bytes)) :=
  (takeExactly_takes bytes).map fun bytes => Head.whole (item bytes)

theorem readCounted_takes (item : List UInt8 → Item) {width : Nat} {bytes : List UInt8}
    (h : bytes.length < formsOf width) :
    Takes (readCounted item width) (bigEndian width bytes.length ++ bytes)
      (.whole (item bytes)) :=
  (readBigEndian_takes h).bind (readBytes_takes item bytes)

/-- A head of several bytes is read by its first. -/
theorem read_takes_wide {b : UInt8} {written : List UInt8} {head : Head} (low : 0xC0 ≤ b)
    (high : b < 0xE0) (h : Takes (readWide b) written head) : Takes read (b :: written) head := by
  intro t
  have h1 : ¬ b < 0x80 := by grind
  have h2 : ¬ b < 0x90 := by grind
  have h3 : ¬ b < 0xA0 := by grind
  have h4 : ¬ b < 0xC0 := by grind
  rw [List.cons_append, read, if_neg h1, if_neg h2, if_neg h3, if_neg h4, if_pos high]
  exact h t

end Head

/-! ## Numbers -/

theorem writeNatural_takes {n : Nat} (h : n < 0x10000000000000000) :
    Takes Head.read (writeNatural n) (.whole (.natural n)) := by
  unfold writeNatural
  split
  case isTrue small =>
    intro t
    have byte : n.toUInt8.toNat = n := UInt8.toNat_ofNat_of_lt' (Nat.lt_trans small (by decide))
    have low : n.toUInt8 < 0x80 := by
      rw [UInt8.lt_iff_toNat_lt, byte]
      exact small
    rw [List.cons_append, List.nil_append, Head.read, if_pos low, byte]
  split
  · exact Head.read_takes_wide (by decide) (by decide)
      (Head.readNatural_takes (by assumption))
  split
  · exact Head.read_takes_wide (by decide) (by decide)
      (Head.readNatural_takes (by assumption))
  split
  · exact Head.read_takes_wide (by decide) (by decide)
      (Head.readNatural_takes (by assumption))
  · exact Head.read_takes_wide (by decide) (by decide) (Head.readNatural_takes h)

/-- The one byte of a small negative number. -/
theorem smallInteger_takes {n : Int} (low : -0x20 ≤ n) (high : n < 0) :
    Takes Head.read (bigEndian 1 (complement 1 n)) (.whole (.integer n)) := by
  intro t
  have value : complement 1 n = (n + 256).toNat := by
    rw [complement, formsOf_eq]
    omega
  have byte : (complement 1 n).toUInt8.toNat = (n + 256).toNat := by
    rw [value]
    exact UInt8.toNat_ofNat_of_lt' (by unfold UInt8.size; omega)
  have bound : 0xE0 ≤ (complement 1 n).toUInt8 := by
    rw [UInt8.le_iff_toNat_le, byte]
    simp only [UInt8.reduceToNat]
    omega
  have back : signed 1 (complement 1 n).toUInt8.toNat = n := by
    rw [byte, ← value]
    exact signed_complement (by rw [formsOf_eq]; omega) (by rw [formsOf_eq]; omega)
  have whole : bigEndian 1 (complement 1 n) = [(complement 1 n).toUInt8] := by
    simp [bigEndian, formsOf]
  have h1 : ¬ (complement 1 n).toUInt8 < 0x80 := by grind
  have h2 : ¬ (complement 1 n).toUInt8 < 0x90 := by grind
  have h3 : ¬ (complement 1 n).toUInt8 < 0xA0 := by grind
  have h4 : ¬ (complement 1 n).toUInt8 < 0xC0 := by grind
  have h5 : ¬ (complement 1 n).toUInt8 < 0xE0 := by grind
  rw [whole, List.cons_append, List.nil_append, Head.read, if_neg h1, if_neg h2, if_neg h3,
    if_neg h4, if_neg h5, back]

theorem writeInteger_takes {n : Int} (low : -0x8000000000000000 ≤ n)
    (high : n < 0x8000000000000000) :
    Takes Head.read (writeInteger n) (.whole (.integer n)) := by
  unfold writeInteger
  split
  case isTrue small => exact smallInteger_takes small.1 small.2
  split
  case isTrue range =>
    exact Head.read_takes_wide (by decide) (by decide)
      (Head.readInteger_takes (by rw [formsOf_eq]; omega) (by rw [formsOf_eq]; omega))
  split
  case isTrue range =>
    exact Head.read_takes_wide (by decide) (by decide)
      (Head.readInteger_takes (by rw [formsOf_eq]; omega) (by rw [formsOf_eq]; omega))
  split
  case isTrue range =>
    exact Head.read_takes_wide (by decide) (by decide)
      (Head.readInteger_takes (by rw [formsOf_eq]; omega) (by rw [formsOf_eq]; omega))
  · exact Head.read_takes_wide (by decide) (by decide)
      (Head.readInteger_takes (by rw [formsOf_eq]; omega) (by rw [formsOf_eq]; omega))

/-! ## Counts -/

theorem listHead_takes {n : Nat} (h : n < 0x100000000) :
    Takes Head.read (listHead n) (.list n) := by
  unfold listHead
  split
  case isTrue small =>
    intro t
    interval_cases n <;> rfl
  split
  · exact Head.read_takes_wide (by decide) (by decide) (Head.readCount_takes _ (by assumption))
  · exact Head.read_takes_wide (by decide) (by decide) (Head.readCount_takes _ h)

theorem tableHead_takes {n : Nat} (h : n < 0x100000000) :
    Takes Head.read (tableHead n) (.table n) := by
  unfold tableHead
  split
  case isTrue small =>
    intro t
    interval_cases n <;> rfl
  split
  · exact Head.read_takes_wide (by decide) (by decide) (Head.readCount_takes _ (by assumption))
  · exact Head.read_takes_wide (by decide) (by decide) (Head.readCount_takes _ h)

theorem extensionHead_takes {n : Nat} (h : n < 0x100000000) :
    Takes Head.read (extensionHead n) (.extension n) := by
  unfold extensionHead
  split
  · exact Head.read_takes_wide (by decide) (by decide) (Head.readCount_takes _ (by assumption))
  split
  · exact Head.read_takes_wide (by decide) (by decide) (Head.readCount_takes _ (by assumption))
  · exact Head.read_takes_wide (by decide) (by decide) (Head.readCount_takes _ h)

/-! ## Counted bytes -/

theorem name_takes {text : List UInt8} (h : text.length < 0x100000000) :
    Takes Head.read (nameHead text.length ++ text) (.whole (.name text)) := by
  unfold nameHead
  split
  case isTrue small =>
    intro t
    have front : Head.read ([0xA0 ||| text.length.toUInt8] ++ text ++ t) =
        Head.readBytes .name text.length (text ++ t) := by
      rw [List.append_assoc, List.singleton_append]
      generalize text.length = n at small ⊢
      interval_cases n <;> rfl
    rw [front]
    exact Head.readBytes_takes .name text t
  split
  · exact Head.read_takes_wide (by decide) (by decide) (Head.readCounted_takes _ (by assumption))
  split
  · exact Head.read_takes_wide (by decide) (by decide) (Head.readCounted_takes _ (by assumption))
  · exact Head.read_takes_wide (by decide) (by decide) (Head.readCounted_takes _ h)

theorem blob_takes {bytes : List UInt8} (h : bytes.length < 0x100000000) :
    Takes Head.read (blobHead bytes.length ++ bytes) (.whole (.blob bytes)) := by
  unfold blobHead
  split
  · exact Head.read_takes_wide (by decide) (by decide) (Head.readCounted_takes _ (by assumption))
  split
  · exact Head.read_takes_wide (by decide) (by decide) (Head.readCounted_takes _ (by assumption))
  · exact Head.read_takes_wide (by decide) (by decide) (Head.readCounted_takes _ h)

theorem real_takes {bytes : List UInt8} (h : bytes.length = 4 ∨ bytes.length = 8) :
    Takes Head.read ((if bytes.length = 4 then 0xCA else 0xCB) :: bytes)
      (.whole (.real bytes)) := by
  have taken := Head.readBytes_takes .real bytes
  rcases h with h | h
  · rw [if_pos h]
    rw [h] at taken
    exact Head.read_takes_wide (by decide) (by decide) taken
  · rw [if_neg (by omega)]
    rw [h] at taken
    exact Head.read_takes_wide (by decide) (by decide) taken

/-! ## The reader of heads looks at nothing behind them -/

namespace Head

theorem readNatural_local (width : Nat) : Local (readNatural width) :=
  (readBigEndian_local width 0).map fun n => Head.whole (.natural n)

theorem readInteger_local (width : Nat) : Local (readInteger width) :=
  (readBigEndian_local width 0).map fun n => Head.whole (.integer (signed width n))

theorem readCount_local (count : Nat → Head) (width : Nat) : Local (readCount count width) :=
  (readBigEndian_local width 0).map count

theorem readBytes_local (item : List UInt8 → Item) (n : Nat) : Local (readBytes item n) :=
  (takeExactly_local n).map fun bytes => Head.whole (item bytes)

theorem readCounted_local (item : List UInt8 → Item) (width : Nat) :
    Local (readCounted item width) :=
  (readBigEndian_local width 0).bind (readBytes_local item)

theorem readWide_local (b : UInt8) : Local (readWide b) := by
  intro s head rest t
  unfold readWide
  split
  all_goals first
    | exact Local.pure _ s head rest t
    | exact readCounted_local _ _ s head rest t
    | exact readCount_local _ _ s head rest t
    | exact readBytes_local _ _ s head rest t
    | exact readNatural_local _ s head rest t
    | exact readInteger_local _ s head rest t
    | exact fun h => nomatch h

/-- Behind the first byte of a head the reader looks at no more than the head. -/
theorem read_cons_local (b : UInt8) : Local fun s => read (b :: s) := by
  have small := Local.pure (whole (.integer (signed 1 b.toNat)))
  have wide := Local.ite (b < 0xE0) (readWide_local b) small
  have names := Local.ite (b < 0xC0) (readBytes_local .name (b &&& 0x1F).toNat) wide
  have lists := Local.ite (b < 0xA0) (Local.pure (list (b &&& 0x0F).toNat)) names
  have tables := Local.ite (b < 0x90) (Local.pure (table (b &&& 0x0F).toNat)) lists
  exact Local.ite (b < 0x80) (Local.pure (whole (.natural b.toNat))) tables

/-- The reader of heads does not look behind a head. -/
theorem read_local : Local read := by
  intro s head rest t h
  cases s with
  | nil => cases h
  | cons b s => exact read_cons_local b s head rest t h

end Head

end Item

end DotMatrix
