import AspiManager.Device.Key
import Mathlib.Data.List.TakeWhile

/-!
# Spellings of device keys

What a name has to be made of to be that of a device (`DeviceKey.Spells`) is said here without
reading it: blanks at the ends, the word in front or not, and the three numbers behind their letters.
Which digits are a number is left open in it. A name is read exactly if it is spelled with numbers
that may have a plus sign in front; the spellings with digits only are those that have no plus sign
(`DeviceKey.parse?_iff_spells`).

* `Numeral.octet?_eq_some_iff`: a number of one octet.
* `DeviceKey.ofLetters_eq_some_iff`: the letters and the numbers between them.
* `Blank.trim_append`, `DeviceKey.stripWord_append`: what is around them.
-/

namespace AspiManager

/-! ## Numbers -/

namespace Numeral

variable {cs : List Char} {max acc n : Nat} {b : UInt8} {c : Char}

/-- Decimal digits, at least one, that are a number of one octet. -/
structure IsDecimal (cs : List Char) (b : UInt8) : Prop where
  ne_nil : cs ≠ []
  digits : ∀ c ∈ cs, c.isDigit = true
  value : Nat.ofDigitChars 10 cs 0 = b.toNat

/-- Such digits, or a plus sign and then such digits. -/
def IsSigned (cs : List Char) (b : UInt8) : Prop :=
  IsDecimal cs b ∨ ∃ ds, cs = '+' :: ds ∧ IsDecimal ds b

theorem isDigit_iff : c.isDigit = true ↔ '0' ≤ c ∧ c ≤ '9' := by
  simp [Char.isDigit, Char.le_def]

theorem digitValue?_of_isDigit (h : c.isDigit = true) :
    digitValue? 10 c = some (c.toNat - '0'.toNat) := by
  have hc := isDigit_iff.mp h
  have hle : c.toNat ≤ 57 := hc.2
  simp [digitValue?, hc]
  omega

/-- A letter is worth ten or more. -/
theorem digitValue?_of_not (h : ¬ c.isDigit = true) : digitValue? 10 c = none := by
  have hc := mt isDigit_iff.mpr h
  unfold digitValue?
  rw [if_neg hc]
  by_cases hsmall : 'a' ≤ c ∧ c ≤ 'z'
  · have hle : 97 ≤ c.toNat := hsmall.1
    simp [hsmall]
    omega
  by_cases hcapital : 'A' ≤ c ∧ c ≤ 'Z'
  · have hle : 65 ≤ c.toNat := hcapital.1
    simp [hsmall, hcapital]
    omega
  · simp [hsmall, hcapital]

/-- More digits make no number smaller. -/
theorem le_ofDigitChars (cs : List Char) (acc : Nat) : acc ≤ Nat.ofDigitChars 10 cs acc := by
  induction cs generalizing acc with
  | nil => exact Nat.le_refl acc
  | cons c cs ih =>
    rw [Nat.ofDigitChars_cons]
    have h := ih (10 * acc + (c.toNat - '0'.toNat))
    omega

theorem digits_ok_iff (h : acc ≤ max) : digits 10 max acc cs = .ok n ↔
    (∀ c ∈ cs, c.isDigit = true) ∧ Nat.ofDigitChars 10 cs acc = n ∧ n ≤ max := by
  induction cs generalizing acc with
  | nil =>
    have hacc : acc = n → n ≤ max := fun he => he ▸ h
    simpa [digits] using hacc
  | cons c cs ih =>
    by_cases hc : c.isDigit = true
    · simp only [digits, digitValue?_of_isDigit hc, List.forall_mem_cons, hc, true_and,
        Nat.ofDigitChars_cons]
      split
      · rename_i hle
        exact ih hle
      · -- What is too large already stays so, whatever follows.
        rename_i hlarge
        have hmore := le_ofDigitChars cs (10 * acc + (c.toNat - '0'.toNat))
        simp only [reduceCtorEq, false_iff]
        rintro ⟨-, rfl, hn⟩
        omega
    · simp [digits, digitValue?_of_not hc, hc]

/-- A plus sign may stand in front of digits. -/
theorem natural_ok_iff : natural 10 max cs = .ok n ↔
    ∃ ds, (cs = ds ∨ cs = '+' :: ds) ∧ ds ≠ [] ∧ digits 10 max 0 ds = .ok n := by
  have hplus : ∀ ds, digits 10 max 0 ('+' :: ds) ≠ .ok n := by
    intro ds h
    cases h
  fun_cases natural 10 max cs with
  | case1 => simp
  | case2 => simpa using hplus []
  | case3 rest hne =>
    have hrest : rest ≠ [] := fun h => hne (h ▸ rfl)
    constructor
    · intro h
      exact ⟨rest, .inr rfl, hrest, h⟩
    · rintro ⟨ds, rfl | hds, -, h⟩
      · exact absurd h (hplus rest)
      · cases hds
        exact h
  | case4 cs hempty _ hsign =>
    constructor
    · intro h
      exact ⟨cs, .inl rfl, hempty, h⟩
    · rintro ⟨ds, rfl | rfl, -, h⟩
      · exact h
      · exact absurd rfl (hsign ds)

theorem isDecimal_iff : IsDecimal cs b ↔ cs ≠ [] ∧ digits 10 255 0 cs = .ok b.toNat := by
  rw [digits_ok_iff (Nat.zero_le _)]
  constructor
  · rintro ⟨hne, hdigits, hvalue⟩
    exact ⟨hne, hdigits, hvalue, Nat.le_of_lt_succ b.toNat_lt⟩
  · rintro ⟨hne, hdigits, hvalue, -⟩
    exact ⟨hne, hdigits, hvalue⟩

theorem octet?_eq_some_iff : octet? cs = some b ↔ IsSigned cs b := by
  have hsigned : IsSigned cs b ↔ natural 10 255 cs = .ok b.toNat := by
    simp only [natural_ok_iff, IsSigned, isDecimal_iff]
    constructor
    · rintro (h | ⟨ds, hcs, h⟩)
      · exact ⟨cs, .inl rfl, h⟩
      · exact ⟨ds, .inr hcs, h⟩
    · rintro ⟨ds, rfl | hcs, h⟩
      · exact .inl h
      · exact .inr ⟨ds, hcs, h⟩
  rw [hsigned]
  unfold octet?
  cases hn : natural 10 255 cs with
  | error e => simp [Except.toOption]
  | ok n =>
    obtain ⟨ds, -, -, hds⟩ := natural_ok_iff.mp hn
    have hle := ((digits_ok_iff (Nat.zero_le _)).mp hds).2.2
    have hofNat : UInt8.ofNat n = b ↔ n = b.toNat := by
      rw [← UInt8.toNat_inj, UInt8.toNat_ofNat_of_lt' (Nat.lt_succ_of_le hle)]
    simpa [Except.toOption] using hofNat

/-- What a number is made of. -/
theorem IsSigned.mem (h : IsSigned cs b) (hc : c ∈ cs) : c = '+' ∨ c.isDigit = true := by
  rcases h with h | ⟨ds, rfl, h⟩
  · exact .inr (h.digits c hc)
  · exact (List.mem_cons.mp hc).imp_right (h.digits c)

theorem IsSigned.ne_nil (h : IsSigned cs b) : cs ≠ [] := by
  rcases h with h | ⟨ds, rfl, -⟩
  · exact h.ne_nil
  · exact List.cons_ne_nil '+' ds

/-- Without a plus sign it is digits only. -/
theorem isDecimal_iff_isSigned : IsDecimal cs b ↔ IsSigned cs b ∧ '+' ∉ cs := by
  constructor
  · intro h
    exact ⟨.inl h, fun hplus => absurd (h.digits '+' hplus) (by decide)⟩
  · rintro ⟨h | ⟨ds, rfl, -⟩, hplus⟩
    · exact h
    · exact absurd List.mem_cons_self hplus

end Numeral

/-! ## Blanks -/

namespace Blank

variable {cs front back : List Char} {c : Char}

/-- There is nothing but blanks. -/
def Only (cs : List Char) : Prop := ∀ c ∈ cs, isBlank c = true

/-- No blank is at either end. -/
structure Trimmed (cs : List Char) : Prop where
  first : ∃ c, cs.head? = some c ∧ isBlank c = false
  last : ∃ c, cs.getLast? = some c ∧ isBlank c = false

/-- What ASCII shows is no blank. -/
theorem isBlank_of_visible (h : 33 ≤ c.toNat) (h' : c.toNat ≤ 126) : isBlank c = false := by
  simp [isBlank, ranges]
  omega

theorem toLower_cases (c : Char) : c.toLower = c ∨
    65 ≤ c.toNat ∧ c.toNat ≤ 90 ∧ c.toLower.toNat = c.toNat + 32 := by
  unfold Char.toLower
  split
  · rename_i h
    obtain ⟨hlow, hhigh⟩ := h
    have hlow : 65 ≤ c.toNat := hlow
    have hhigh : c.toNat ≤ 90 := hhigh
    refine .inr ⟨hlow, hhigh, ?_⟩
    have hmod : (c.val + 32).toNat = (c.toNat + 32) % 2 ^ 32 := UInt32.toNat_add c.val 32
    exact hmod.trans (Nat.mod_eq_of_lt (by omega))
  · exact .inl rfl

theorem isBlank_toLower (c : Char) : isBlank c.toLower = isBlank c := by
  rcases toLower_cases c with h | ⟨hlow, hhigh, h⟩
  · rw [h]
  · rw [isBlank_of_visible (by omega) (by omega), isBlank_of_visible (by omega) (by omega)]

theorem Trimmed.of_map_toLower (h : Trimmed (cs.map Char.toLower)) : Trimmed cs := by
  obtain ⟨⟨x, hx, hxblank⟩, y, hy, hyblank⟩ := h
  rw [List.head?_map, Option.map_eq_some_iff] at hx
  rw [List.getLast?_map, Option.map_eq_some_iff] at hy
  obtain ⟨x, hx, rfl⟩ := hx
  obtain ⟨y, hy, rfl⟩ := hy
  exact ⟨⟨x, hx, (isBlank_toLower x).symm.trans hxblank⟩,
    y, hy, (isBlank_toLower y).symm.trans hyblank⟩

theorem dropFront_append (hf : Only front) (h : ∃ c, cs.head? = some c ∧ isBlank c = false) :
    dropFront (front ++ cs) = cs := by
  obtain ⟨c, hc, hblank⟩ := h
  obtain ⟨rest, rfl⟩ := List.head?_eq_some_iff.mp hc
  unfold dropFront
  rw [List.dropWhile_append_of_pos hf, List.dropWhile_cons_of_neg (by simp [hblank])]

theorem exists_dropFront (cs : List Char) : ∃ front, Only front ∧ cs = front ++ dropFront cs :=
  ⟨cs.takeWhile isBlank, fun _ hc => List.mem_takeWhile_imp hc,
    List.takeWhile_append_dropWhile.symm⟩

/-- From behind, blanks are dropped as from the front. -/
theorem dropBack_eq (cs : List Char) : dropBack cs = (dropFront cs.reverse).reverse := rfl

theorem Only.reverse (h : Only cs) : Only cs.reverse := fun c hc => h c (List.mem_reverse.mp hc)

theorem trim_append (hf : Only front) (h : Trimmed cs) (hb : Only back) :
    trim (front ++ cs ++ back) = cs := by
  obtain ⟨⟨x, hx, hxblank⟩, y, hy, hyblank⟩ := h
  have hfront : dropFront (front ++ (cs ++ back)) = cs ++ back := by
    refine dropFront_append hf ⟨x, ?_, hxblank⟩
    rw [List.head?_append, hx]
    rfl
  have hback : dropFront (back.reverse ++ cs.reverse) = cs.reverse := by
    refine dropFront_append hb.reverse ⟨y, ?_, hyblank⟩
    rw [List.head?_reverse, hy]
  unfold trim
  rw [List.append_assoc, hfront, dropBack_eq, List.reverse_append, hback, List.reverse_reverse]

theorem exists_trim (cs : List Char) :
    ∃ front back, Only front ∧ Only back ∧ cs = front ++ trim cs ++ back := by
  obtain ⟨front, hf, hcs⟩ := exists_dropFront cs
  obtain ⟨back, hb, hrest⟩ := exists_dropFront (dropFront cs).reverse
  refine ⟨front, back.reverse, hf, hb.reverse, ?_⟩
  have hback : dropFront cs = trim cs ++ back.reverse := by
    unfold trim
    rw [dropBack_eq, ← List.reverse_append, ← hrest, List.reverse_reverse]
  rw [List.append_assoc, ← hback, ← hcs]

end Blank

/-! ## Keys -/

namespace DeviceKey

open Blank (Only Trimmed)
open Numeral (IsDecimal IsSigned)

variable {number : List Char → UInt8 → Prop} {name : String} {k : DeviceKey}
  {cs xs ys word core : List Char} {c : Char}

/-- The three numbers, each behind its letter. -/
def Letters (number : List Char → UInt8 → Prop) (cs : List Char) (k : DeviceKey) : Prop :=
  ∃ adapter target lun, cs = 'c' :: (adapter ++ 't' :: (target ++ 'd' :: lun)) ∧
    number adapter k.adapter ∧ number target k.target ∧ number lun k.lun

/-- Nothing, or `scsi` in small or capital letters, a space, and more blanks. -/
def IsWord (word : List Char) : Prop :=
  word = [] ∨ ∃ blanks, Only blanks ∧
    (word = ['s', 'c', 's', 'i', ' '] ++ blanks ∨ word = ['S', 'C', 'S', 'I', ' '] ++ blanks)

/-- The name spells the key: between blanks stand the word, if at all, and the letters with their
numbers, small or capital. -/
def Spells (number : List Char → UInt8 → Prop) (name : String) (k : DeviceKey) : Prop :=
  ∃ front word core back, name.toList = front ++ (word ++ core) ++ back ∧
    Only front ∧ Only back ∧ IsWord word ∧ Letters number (core.map Char.toLower) k

/-! ### Letters -/

theorem cut_cons (c x : Char) (cs : List Char) : cut c (x :: cs) =
    if x = c then some ([], cs) else (cut c cs).map fun p => (x :: p.1, p.2) := by
  unfold cut
  by_cases h : x = c
  · simp [h]
  · simp only [h, if_false]
    rw [List.dropWhile_cons_of_pos (by simp [h]), List.takeWhile_cons_of_pos (by simp [h])]
    split <;> rfl

theorem cut_eq_some_iff : cut c cs = some (xs, ys) ↔ cs = xs ++ c :: ys ∧ c ∉ xs := by
  induction cs generalizing xs with
  | nil => simp [cut]
  | cons x cs ih =>
    rw [cut_cons]
    by_cases h : x = c
    · subst h
      cases xs with
      | nil => simp
      | cons z zs =>
        have hz : x = z → x ∈ z :: zs := fun hz => hz ▸ List.mem_cons_self
        simp only [if_true, Option.some.injEq, Prod.mk.injEq, List.nil_eq, reduceCtorEq, false_and,
          List.cons_append, List.cons.injEq, false_iff]
        exact fun hcs => hcs.2 (hz hcs.1.1)
    · cases xs with
      | nil => simp [h]
      | cons z zs =>
        have hne : ¬ c = x := Ne.symm h
        simp only [if_neg h, Option.map_eq_some_iff, Prod.mk.injEq, List.cons.injEq, Prod.exists,
          List.cons_append, List.mem_cons, not_or]
        constructor
        · rintro ⟨zs', ys', hcut, ⟨rfl, rfl⟩, rfl⟩
          obtain ⟨hcs, hmem⟩ := ih.mp hcut
          exact ⟨⟨rfl, hcs⟩, hne, hmem⟩
        · rintro ⟨⟨rfl, hcs⟩, -, hmem⟩
          exact ⟨zs, ys, ih.mpr ⟨hcs, hmem⟩, ⟨rfl, rfl⟩, rfl⟩

/-- A letter is no part of a number. -/
theorem notMem_of_isSigned {b : UInt8} (h : IsSigned cs b) (hc : c.isDigit = false)
    (hplus : c ≠ '+') : c ∉ cs := by
  intro hmem
  rcases h.mem hmem with rfl | hdigit
  · exact hplus rfl
  · rw [hc] at hdigit
    cases hdigit

theorem ofLetters_eq_some_iff : ofLetters cs = some k ↔ Letters IsSigned cs k := by
  constructor
  · intro h
    unfold ofLetters at h
    split at h
    · simp only [Option.bind_eq_some_iff, bind, pure, Prod.exists, Option.some.injEq,
        cut_eq_some_iff, Numeral.octet?_eq_some_iff] at h
      obtain ⟨adapter, _, ⟨rfl, -⟩, target, lun, ⟨rfl, -⟩, a, ha, t, ht, l, hl, rfl⟩ := h
      exact ⟨adapter, target, lun, rfl, ha, ht, hl⟩
    · cases h
  · rintro ⟨adapter, target, lun, rfl, ha, ht, hl⟩
    have hfirst : cut 't' (adapter ++ 't' :: (target ++ 'd' :: lun)) =
        some (adapter, target ++ 'd' :: lun) :=
      cut_eq_some_iff.mpr ⟨rfl, notMem_of_isSigned ha (by decide) (by decide)⟩
    have hsecond : cut 'd' (target ++ 'd' :: lun) = some (target, lun) :=
      cut_eq_some_iff.mpr ⟨rfl, notMem_of_isSigned ht (by decide) (by decide)⟩
    rw [← Numeral.octet?_eq_some_iff] at ha ht hl
    unfold ofLetters
    simp only [hfirst, hsecond, ha, ht, hl, bind, Option.bind, pure]

/-- Letters and numbers begin and end without blanks. -/
theorem Letters.trimmed (h : Letters IsSigned cs k) : Trimmed cs := by
  obtain ⟨adapter, target, lun, rfl, -, -, hl⟩ := h
  obtain ⟨y, hy⟩ := Option.ne_none_iff_exists'.mp (mt List.getLast?_eq_none_iff.mp hl.ne_nil)
  refine ⟨⟨'c', rfl, by decide⟩, y, ?_, ?_⟩
  · simp [List.getLast?_cons, List.getLast?_append, hy]
  · rcases hl.mem (List.mem_of_getLast? hy) with rfl | hdigit
    · decide
    · have hrange := Numeral.isDigit_iff.mp hdigit
      have hlow : 48 ≤ y.toNat := hrange.1
      have hhigh : y.toNat ≤ 57 := hrange.2
      exact Blank.isBlank_of_visible (by omega) (by omega)

/-! ### The word -/

theorem exists_stripWord (cs : List Char) : ∃ word,
    (word = [] ∨ word = ['s', 'c', 's', 'i', ' '] ∨ word = ['S', 'C', 'S', 'I', ' ']) ∧
      cs = word ++ stripWord cs := by
  fun_cases stripWord cs with
  | case1 rest => exact ⟨_, .inr (.inl rfl), rfl⟩
  | case2 rest => exact ⟨_, .inr (.inr rfl), rfl⟩
  | case3 => exact ⟨[], .inl rfl, rfl⟩

theorem stripWord_of_letter (hc : c.toLower = 'c') : stripWord (c :: cs) = c :: cs := by
  have hs : c ≠ 's' := by
    rintro rfl
    exact absurd hc (by decide)
  have hcapital : c ≠ 'S' := by
    rintro rfl
    exact absurd hc (by decide)
  unfold stripWord
  split
  · rename_i h
    exact absurd (List.cons.inj h).1 hs
  · rename_i h
    exact absurd (List.cons.inj h).1 hcapital
  · rfl

/-- The word goes, with the blanks behind it. -/
theorem stripWord_append (hw : IsWord word) (h : Letters number (core.map Char.toLower) k)
    (ht : Trimmed core) : Blank.dropFront (stripWord (word ++ core)) = core := by
  rcases hw with rfl | ⟨blanks, hb, rfl | rfl⟩
  · obtain ⟨adapter, target, lun, hletters, -⟩ := h
    obtain ⟨c, rest, rfl, hc, -⟩ := List.map_eq_cons_iff.mp hletters
    have hnone : Only [] := List.forall_mem_nil _
    rw [List.nil_append, stripWord_of_letter hc]
    exact Blank.dropFront_append hnone ht.first
  · exact Blank.dropFront_append hb ht.first
  · exact Blank.dropFront_append hb ht.first

theorem IsWord.trimmed_append (hw : IsWord word) (ht : Trimmed core) :
    Trimmed (word ++ core) := by
  obtain ⟨first, y, hy, hyblank⟩ := ht
  refine ⟨?_, y, ?_, hyblank⟩
  · rcases hw with rfl | ⟨blanks, -, rfl | rfl⟩
    · exact first
    · exact ⟨'s', rfl, by decide⟩
    · exact ⟨'S', rfl, by decide⟩
  · rw [List.getLast?_append, hy]
    rfl

/-! ### Names -/

/-- A name is read exactly if it is a spelling with numbers that may have a plus sign. -/
theorem parse?_iff_spells_signed : parse? name = some k ↔ Spells IsSigned name k := by
  unfold parse?
  rw [ofLetters_eq_some_iff]
  constructor
  · intro h
    obtain ⟨front, back, hf, hb, hname⟩ := Blank.exists_trim name.toList
    obtain ⟨word, hword, htrim⟩ := exists_stripWord (Blank.trim name.toList)
    obtain ⟨blanks, hblanks, hcore⟩ :=
      Blank.exists_dropFront (stripWord (Blank.trim name.toList))
    rw [htrim, hcore] at hname
    rcases hword with rfl | hword
    · -- Without the word, its blanks are some of those in front.
      refine ⟨front ++ blanks, [], _, back, ?_, ?_, hb, .inl rfl, h⟩
      · simpa using hname
      · exact fun c hc => (List.mem_append.mp hc).elim (hf c) (hblanks c)
    · refine ⟨front, word ++ blanks, _, back, ?_, hf, hb, .inr ⟨blanks, hblanks, ?_⟩, h⟩
      · simpa using hname
      · exact hword.imp (congrArg (· ++ blanks)) (congrArg (· ++ blanks))
  · rintro ⟨front, word, core, back, hname, hf, hb, hw, h⟩
    have ht : Trimmed core := h.trimmed.of_map_toLower
    rw [hname, Blank.trim_append hf (hw.trimmed_append ht) hb, stripWord_append hw h ht]
    exact h

theorem plus_notMem_of_only (h : Only cs) : '+' ∉ cs := fun hmem => absurd (h '+' hmem) (by decide)

theorem IsWord.plus_notMem (h : IsWord word) : '+' ∉ word := by
  rcases h with rfl | ⟨blanks, hb, rfl | rfl⟩
  · exact List.not_mem_nil
  · simpa using plus_notMem_of_only hb
  · simpa using plus_notMem_of_only hb

theorem plus_mem_map_toLower : '+' ∈ cs.map Char.toLower ↔ '+' ∈ cs := by
  constructor
  · intro h
    obtain ⟨c, hc, hplus⟩ := List.mem_map.mp h
    rcases Blank.toLower_cases c with hsame | ⟨hlow, -, hcode⟩
    · exact hsame.symm.trans hplus ▸ hc
    · rw [hplus] at hcode
      have hplus : '+'.toNat = 43 := rfl
      omega
  · intro h
    exact List.mem_map.mpr ⟨'+', h, rfl⟩

theorem letters_decimal_iff : Letters IsDecimal cs k ↔ Letters IsSigned cs k ∧ '+' ∉ cs := by
  constructor
  · rintro ⟨adapter, target, lun, rfl, ha, ht, hl⟩
    rw [Numeral.isDecimal_iff_isSigned] at ha ht hl
    refine ⟨⟨adapter, target, lun, rfl, ha.1, ht.1, hl.1⟩, ?_⟩
    simp [ha.2, ht.2, hl.2]
  · rintro ⟨⟨adapter, target, lun, rfl, ha, ht, hl⟩, hplus⟩
    simp only [List.mem_cons, List.mem_append, not_or] at hplus
    refine ⟨adapter, target, lun, rfl, ?_, ?_, ?_⟩
    · exact Numeral.isDecimal_iff_isSigned.mpr ⟨ha, hplus.2.1⟩
    · exact Numeral.isDecimal_iff_isSigned.mpr ⟨ht, hplus.2.2.2.1⟩
    · exact Numeral.isDecimal_iff_isSigned.mpr ⟨hl, hplus.2.2.2.2.2⟩

theorem spells_decimal_iff :
    Spells IsDecimal name k ↔ Spells IsSigned name k ∧ '+' ∉ name.toList := by
  constructor
  · rintro ⟨front, word, core, back, hname, hf, hb, hw, h⟩
    obtain ⟨hsigned, hplus⟩ := letters_decimal_iff.mp h
    refine ⟨⟨front, word, core, back, hname, hf, hb, hw, hsigned⟩, ?_⟩
    rw [plus_mem_map_toLower] at hplus
    simp [hname, plus_notMem_of_only hf, plus_notMem_of_only hb, hw.plus_notMem, hplus]
  · rintro ⟨⟨front, word, core, back, hname, hf, hb, hw, h⟩, hplus⟩
    rw [hname] at hplus
    simp only [List.mem_append, not_or] at hplus
    exact ⟨front, word, core, back, hname, hf, hb, hw,
      letters_decimal_iff.mpr ⟨h, mt plus_mem_map_toLower.mp hplus.1.2.2⟩⟩

/-- A name is read exactly if it spells a key with numbers that may have a plus sign in front, and
the key is the one it spells. It follows the grammar, with digits only, exactly if it is read and has
no plus sign. -/
theorem parse?_iff_spells (name : String) (k : DeviceKey) :
    (parse? name = some k ↔ Spells IsSigned name k) ∧
      (Spells IsDecimal name k ↔ parse? name = some k ∧ '+' ∉ name.toList) := by
  refine ⟨parse?_iff_spells_signed, ?_⟩
  rw [parse?_iff_spells_signed]
  exact spells_decimal_iff

example : parse? " SCSI  C000T07d1\n" = some ⟨0, 7, 1⟩ := by decide +kernel

/-- The signs are read over, though no digits-only spelling has any. -/
theorem plus_signs_read :
    parse? "c+0t+2d+0" = some ⟨0, 2, 0⟩ ∧ ¬ ∃ k, Spells IsDecimal "c+0t+2d+0" k := by
  refine ⟨by decide +kernel, ?_⟩
  rintro ⟨k, h⟩
  exact (spells_decimal_iff.mp h).2 (by decide)

end DeviceKey

end AspiManager
