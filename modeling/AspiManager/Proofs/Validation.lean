import AspiManager.Config.Session
import AspiManager.Proofs.Histories
import Mathlib.Data.String.Basic
import Mathlib.Data.List.Induction
import Mathlib.Data.List.Pairwise
import Mathlib.Logic.Function.Basic

/-!
# What a validation makes of a configuration

A session edits the entries and the adapter, and validates in between. What the edits amount to is
kept in `Settings`: a map from names to entries, and an adapter. `Config.reflects_after` says over
every session

* that the entries and the adapter are those of the settings,
* that a validation succeeds exactly on `Acceptable` settings, and otherwise changes nothing,
* that a device is looked up in the settings of the last validation that succeeded, whatever was
  edited since.

The entries are a list in the order of names (`InOrder`). Only that makes it a map: a list with one
name twice would be validated twice, and looked up once.
-/

namespace AspiManager

namespace Config

/-! ## Settings -/

/-- What edits amount to. -/
structure Settings where
  device? : String → Option DeviceEntry := fun _ => none
  adapter : Adapter := {}

namespace Settings

def edit (s : Settings) : Step → Settings
  | .put name e => { s with device? := Function.update s.device? name (some e) }
  | .remove name => { s with device? := Function.update s.device? name none }
  | .setAdapter a => { s with adapter := a }
  | .validate | .lookup _ => s

/-- The settings after a session that began with none. -/
def after (steps : List Step) : Settings := steps.foldl edit {}

/-- Some entry has a name for the key, and the path. -/
def Lists (s : Settings) (key : DeviceKey) (path : String) : Prop :=
  ∃ name e, s.device? name = some e ∧ DeviceKey.parse? name = some key ∧ e.path = path

end Settings

/-- ASCII that fits into the field of a name. -/
def IsShortAscii (value : String) : Prop :=
  (∀ ch ∈ value.toList, ch.toNat < 128) ∧ value.utf8ByteSize ≤ 15

/-- Settings that a manager can work with. -/
structure Acceptable (s : Settings) : Prop where
  scsiId : s.adapter.scsiId.toNat ≤ 7
  managerId : IsShortAscii s.adapter.managerId
  identifier : IsShortAscii s.adapter.identifier
  named : ∀ name e, s.device? name = some e → ∃ key, DeviceKey.parse? name = some key
  placed : ∀ name e, s.device? name = some e → e.path ≠ ""
  /-- However a key is spelled, only one name spells it. -/
  apart : ∀ name name' e e' key, s.device? name = some e → s.device? name' = some e' →
    DeviceKey.parse? name = some key → DeviceKey.parse? name' = some key → name = name'

/-- The configuration after a session. -/
def after (c : Config) (steps : List Step) : Config := steps.foldl (fun c s => (c.step s).2) c

/-- A validation succeeded after the steps `before`, and none after it did. -/
def LastValid (steps before : List Step) : Prop :=
  ∃ rest, steps = before ++ .validate :: rest ∧
    ((after {} before).step .validate).1 = .valid ∧
    ∀ xs ys, rest = xs ++ .validate :: ys →
      ((after {} (before ++ .validate :: xs)).step .validate).1 ≠ .valid

/-- A configuration that is what a session made of the default one. -/
structure Reflects (c : Config) (steps : List Step) : Prop where
  entries : ∀ name, c.entry? name = (Settings.after steps).device? name
  adapter : c.adapter = (Settings.after steps).adapter
  valid_iff : (c.step .validate).1 = .valid ↔ Acceptable (Settings.after steps)
  /-- A validation that fails leaves the entries, the adapter and the table. -/
  refused : ¬ Acceptable (Settings.after steps) → ∃ e, c.step .validate = (.refused e, c)
  /-- One that succeeds replaces the table only. -/
  kept : (c.step .validate).2.devices = c.devices ∧ (c.step .validate).2.adapter = c.adapter
  path_iff : ∀ key path, c.devicePath key = some path ↔
    ∃ before, LastValid steps before ∧ (Settings.after before).Lists key path

/-! ## The adapter -/

/-- One octet holds a character of ASCII. -/
theorem utf8Size_of_ascii {ch : Char} (h : ch.toNat < 128) : ch.utf8Size = 1 :=
  Char.utf8Size_eq_one_iff.mpr (UInt32.le_iff_toNat_le.mpr (Nat.le_of_lt_succ h))

theorem utf8ByteSize_of_ascii {value : String} (h : ∀ ch ∈ value.toList, ch.toNat < 128) :
    value.utf8ByteSize = value.length := by
  have hlen : ∀ cs : List Char, (∀ ch ∈ cs, ch.toNat < 128) → String.utf8Len cs = cs.length := by
    intro cs hcs
    induction cs with
    | nil => rfl
    | cons ch cs ih =>
      rw [String.utf8Len_cons, List.length_cons, utf8Size_of_ascii (hcs ch List.mem_cons_self),
        ih fun c hc => hcs c (List.mem_cons_of_mem ch hc)]
  rw [← String.length_toList, ← hlen value.toList h, ← String.utf8ByteSize_ofList,
    String.ofList_toList]

theorem checkName_ok_iff (field value : String) :
    checkName field value = .ok () ↔ IsShortAscii value := by
  have hascii : value.toList.any (fun ch => 0x80 ≤ ch.toNat) = true ↔
      ¬ ∀ ch ∈ value.toList, ch.toNat < 128 := by simp
  unfold checkName IsShortAscii maxName
  split
  · rename_i h
    have hnot := hascii.mp h
    simp [hnot]
  · rename_i h
    have hall := not_not.mp (mt hascii.mpr h)
    rw [utf8ByteSize_of_ascii hall]
    split
    · rename_i hlong
      simp [Nat.not_le.mpr hlong]
    · rename_i hshort
      simpa [Nat.not_lt.mp hshort] using hall

theorem checkAdapter_ok_iff {a : Adapter} : checkAdapter a = .ok () ↔
    a.scsiId.toNat ≤ 7 ∧ IsShortAscii a.managerId ∧ IsShortAscii a.identifier := by
  rw [← checkName_ok_iff "ManagerId", ← checkName_ok_iff "Identifier"]
  have hid : 7 < a.scsiId ↔ ¬ a.scsiId.toNat ≤ 7 := by
    rw [UInt8.lt_iff_toNat_lt, Nat.not_le]
    rfl
  unfold checkAdapter
  by_cases h : 7 < a.scsiId
  · have hnot := hid.mp h
    simp [h, hnot, bind, Except.bind]
  · have hle := not_not.mp (mt hid.mpr h)
    cases hm : checkName "ManagerId" a.managerId with
    | error e => simp [h, bind, Except.bind]
    | ok u => simp [h, hle, bind, Except.bind]

/-! ## Entries -/

section

variable {es : List (String × DeviceEntry)} {x : String × DeviceEntry} {name : String}
  {e : DeviceEntry}

/-- Entries stand in the order of their names. -/
def InOrder (es : List (String × DeviceEntry)) : Prop := es.Pairwise fun x y => x.1 < y.1

/-- An entry is put over the one with its name. -/
theorem InOrder.mem_insertEntry_iff (h : InOrder es) :
    x ∈ insertEntry name e es ↔ x = (name, e) ∨ (x ∈ es ∧ x.1 ≠ name) := by
  induction es with
  | nil => simp [insertEntry]
  | cons y rest ih =>
    obtain ⟨n, d⟩ := y
    obtain ⟨hbelow, hrest⟩ := List.pairwise_cons.mp h
    unfold insertEntry
    split
    · rename_i hn
      subst hn
      have hne : ∀ z ∈ rest, z.1 ≠ name := fun z hz => ne_of_gt (hbelow z hz)
      simp only [List.mem_cons]
      constructor
      · rintro (hx | hx)
        · exact .inl hx
        · exact .inr ⟨.inr hx, hne x hx⟩
      · rintro (hx | ⟨rfl | hx, hxn⟩)
        · exact .inl hx
        · exact absurd rfl hxn
        · exact .inr hx
    · rename_i hn
      split
      · rename_i hlt
        have hne : ∀ z ∈ (n, d) :: rest, z.1 ≠ name := by
          intro z hz
          rcases List.mem_cons.mp hz with rfl | hz
          · exact ne_of_gt hlt
          · exact ne_of_gt (lt_trans hlt (hbelow z hz))
        rw [List.mem_cons]
        constructor
        · rintro (hx | hx)
          · exact .inl hx
          · exact .inr ⟨hx, hne x hx⟩
        · rintro (hx | ⟨hx, -⟩)
          · exact .inl hx
          · exact .inr hx
      · rw [List.mem_cons, ih hrest, List.mem_cons]
        constructor
        · rintro (rfl | hx | ⟨hx, hxn⟩)
          · exact .inr ⟨.inl rfl, Ne.symm hn⟩
          · exact .inl hx
          · exact .inr ⟨.inr hx, hxn⟩
        · rintro (hx | ⟨rfl | hx, hxn⟩)
          · exact .inr (.inl hx)
          · exact .inl rfl
          · exact .inr (.inr ⟨hx, hxn⟩)

theorem InOrder.insertEntry (h : InOrder es) : InOrder (insertEntry name e es) := by
  induction es with
  | nil => exact List.pairwise_singleton _ _
  | cons y rest ih =>
    obtain ⟨n, d⟩ := y
    obtain ⟨hbelow, hrest⟩ := List.pairwise_cons.mp h
    unfold Config.insertEntry
    split
    · rename_i hn
      subst hn
      exact List.pairwise_cons.mpr ⟨hbelow, hrest⟩
    · rename_i hn
      split
      · rename_i hlt
        refine List.pairwise_cons.mpr ⟨fun z hz => ?_, h⟩
        rcases List.mem_cons.mp hz with rfl | hz
        · exact hlt
        · exact lt_trans hlt (hbelow z hz)
      · rename_i hge
        refine List.pairwise_cons.mpr ⟨fun z hz => ?_, ih hrest⟩
        rcases (InOrder.mem_insertEntry_iff hrest).mp hz with rfl | ⟨hz, -⟩
        · exact lt_of_le_of_ne (not_lt.mp hge) (Ne.symm hn)
        · exact hbelow z hz

theorem InOrder.lookup_iff (h : InOrder es) : es.lookup name = some e ↔ (name, e) ∈ es := by
  induction es with
  | nil => simp
  | cons y rest ih =>
    obtain ⟨n, d⟩ := y
    obtain ⟨hbelow, hrest⟩ := List.pairwise_cons.mp h
    rw [List.lookup_cons, List.mem_cons]
    by_cases hn : name = n
    · subst hn
      have hnot : (name, e) ∉ rest := fun hmem => lt_irrefl name (hbelow _ hmem)
      simp [hnot, eq_comm]
    · have hne : (name == n) = false := beq_eq_false_iff_ne.mpr hn
      simp [hne, hn, ih hrest]

/-! ## The table of paths -/

/-- Entries that can be added to a table: each has a key and a path, and no key comes twice. -/
structure Addable (table : List (DeviceKey × String)) (es : List (String × DeviceEntry)) :
    Prop where
  named : ∀ x ∈ es, ∃ key, DeviceKey.parse? x.1 = some key
  placed : ∀ x ∈ es, x.2.path ≠ ""
  fresh : ∀ x ∈ es, ∀ key, DeviceKey.parse? x.1 = some key → table.lookup key = none
  apart : es.Pairwise fun x y => DeviceKey.parse? x.1 ≠ DeviceKey.parse? y.1

variable {table t : List (DeviceKey × String)}

theorem lookup_cons_none_iff {k key : DeviceKey} {p : String} :
    ((k, p) :: table).lookup key = none ↔ key ≠ k ∧ table.lookup key = none := by
  rw [List.lookup_cons]
  by_cases h : key = k
  · simp [h]
  · have hne : (key == k) = false := beq_eq_false_iff_ne.mpr h
    simp [hne, h]

/-- The first entry is added, then the others to the table with it. -/
theorem addable_cons_iff : Addable table ((name, e) :: es) ↔ ∃ key,
    DeviceKey.parse? name = some key ∧ e.path ≠ "" ∧ table.lookup key = none ∧
      Addable ((key, e.path) :: table) es := by
  constructor
  · rintro ⟨hnamed, hplaced, hfresh, hapart⟩
    obtain ⟨key, hkey⟩ := hnamed (name, e) List.mem_cons_self
    obtain ⟨hfirst, hrest⟩ := List.pairwise_cons.mp hapart
    have hmem := fun x (hx : x ∈ es) => List.mem_cons_of_mem (name, e) hx
    refine ⟨key, hkey, hplaced _ List.mem_cons_self, hfresh _ List.mem_cons_self key hkey,
      fun x hx => hnamed x (hmem x hx), fun x hx => hplaced x (hmem x hx), fun x hx k hk => ?_,
      hrest⟩
    have hne : k ≠ key := by
      rintro rfl
      exact hfirst x hx (hkey.trans hk.symm)
    exact lookup_cons_none_iff.mpr ⟨hne, hfresh x (hmem x hx) k hk⟩
  · rintro ⟨key, hkey, hpath, hnone, hrest⟩
    refine ⟨?_, ?_, ?_, List.pairwise_cons.mpr ⟨fun x hx he => ?_, hrest.apart⟩⟩
    · rintro x hx
      rcases List.mem_cons.mp hx with rfl | hx
      · exact ⟨key, hkey⟩
      · exact hrest.named x hx
    · rintro x hx
      rcases List.mem_cons.mp hx with rfl | hx
      · exact hpath
      · exact hrest.placed x hx
    · rintro x hx k hk
      rcases List.mem_cons.mp hx with rfl | hx
      · obtain rfl := Option.some.inj (hk.symm.trans hkey)
        exact hnone
      · exact (lookup_cons_none_iff.mp (hrest.fresh x hx k hk)).2
    · exact (lookup_cons_none_iff.mp (hrest.fresh x hx key (he ▸ hkey))).1 rfl

/-- All entries are added, or none is. -/
theorem resolveEntries_ok_iff : (∃ t, resolveEntries table es = .ok t) ↔ Addable table es := by
  induction es generalizing table with
  | nil => simpa [resolveEntries] using ⟨by simp, by simp, by simp, .nil⟩
  | cons x rest ih =>
    obtain ⟨name, e⟩ := x
    rw [addable_cons_iff]
    unfold resolveEntries
    cases hkey : DeviceKey.parse? name with
    | none => simp
    | some key =>
      simp only [Option.some.injEq, exists_eq_left']
      by_cases hpath : e.path = ""
      · simp [hpath]
      · cases htable : table.lookup key with
        | none => simp [String.isEmpty_iff, hpath, ih]
        | some p => simp [String.isEmpty_iff, hpath]

/-- The table has what it had, and the paths of the entries. -/
theorem lookup_of_resolveEntries (h : resolveEntries table es = .ok t) (key : DeviceKey)
    (path : String) : t.lookup key = some path ↔ table.lookup key = some path ∨
      ∃ x ∈ es, DeviceKey.parse? x.1 = some key ∧ x.2.path = path := by
  induction es generalizing table with
  | nil =>
    cases h
    simp
  | cons x rest ih =>
    obtain ⟨name, e⟩ := x
    obtain ⟨k, hk, hpath, hnone, -⟩ := addable_cons_iff.mp (resolveEntries_ok_iff.mp ⟨t, h⟩)
    have hrest : resolveEntries ((k, e.path) :: table) rest = .ok t := by
      simpa [resolveEntries, hk, hpath, hnone, String.isEmpty_iff] using h
    rw [ih hrest, List.lookup_cons]
    by_cases hkey : key = k
    · subst hkey
      simp [hk, hnone]
    · have hne : (key == k) = false := beq_eq_false_iff_ne.mpr hkey
      simp [hne, hk, Ne.symm hkey]

end

/-! ## Validations -/

/-- What a validation that succeeds does. -/
theorem of_validate {c c' : Config} (hv : c.validate = .ok c') :
    checkAdapter c.adapter = .ok () ∧
      ∃ t, resolveEntries [] c.devices = .ok t ∧ c' = { c with resolved := t } := by
  unfold validate at hv
  cases ha : checkAdapter c.adapter with
  | error e => simp [ha, bind, Except.bind] at hv
  | ok u =>
    cases ht : resolveEntries [] c.devices with
    | error e => simp [ha, ht, bind, Except.bind] at hv
    | ok t =>
      simp only [ha, ht, bind, Except.bind, pure, Except.pure, Except.ok.injEq] at hv
      exact ⟨rfl, t, rfl, hv.symm⟩

/-- A configuration with the settings: its entries are those of the map, in order. -/
structure Holds (c : Config) (s : Settings) : Prop where
  inOrder : InOrder c.devices
  mem_iff : ∀ name e, (name, e) ∈ c.devices ↔ s.device? name = some e
  adapter : c.adapter = s.adapter

namespace Holds

variable {c c' : Config} {s : Settings} {key : DeviceKey} {path : String}

theorem addable_iff (h : Holds c s) : Addable [] c.devices ↔
    (∀ name e, s.device? name = some e → ∃ key, DeviceKey.parse? name = some key) ∧
    (∀ name e, s.device? name = some e → e.path ≠ "") ∧
    ∀ name name' e e' key, s.device? name = some e → s.device? name' = some e' →
      DeviceKey.parse? name = some key → DeviceKey.parse? name' = some key → name = name' := by
  constructor
  · rintro ⟨hnamed, hplaced, -, hapart⟩
    refine ⟨fun name e he => hnamed (name, e) ((h.mem_iff name e).mpr he),
      fun name e he => hplaced (name, e) ((h.mem_iff name e).mpr he),
      fun name name' e e' key he he' hk hk' => ?_⟩
    by_contra hne
    have : Std.Symm fun x y : String × DeviceEntry =>
        DeviceKey.parse? x.1 ≠ DeviceKey.parse? y.1 := ⟨fun _ _ hd => Ne.symm hd⟩
    have hmem := (h.mem_iff name e).mpr he
    have hmem' := (h.mem_iff name' e').mpr he'
    have hpair : (name, e) ≠ (name', e') := fun heq => hne (congrArg Prod.fst heq)
    exact hapart.forall hmem hmem' hpair (hk.trans hk'.symm)
  · rintro ⟨hnamed, hplaced, hapart⟩
    refine ⟨fun x hx => hnamed x.1 x.2 ((h.mem_iff _ _).mp hx),
      fun x hx => hplaced x.1 x.2 ((h.mem_iff _ _).mp hx), fun x hx key hk => rfl, ?_⟩
    refine h.inOrder.imp_of_mem fun {x y} hx hy hlt heq => ?_
    have hx' := (h.mem_iff x.1 x.2).mp hx
    have hy' := (h.mem_iff y.1 y.2).mp hy
    obtain ⟨key, hk⟩ := hnamed x.1 x.2 hx'
    exact ne_of_lt hlt (hapart x.1 y.1 x.2 y.2 key hx' hy' hk (heq ▸ hk))

theorem validate_ok_iff (h : Holds c s) : (∃ c', c.validate = .ok c') ↔ Acceptable s := by
  constructor
  · rintro ⟨c', hv⟩
    obtain ⟨ha, t, ht, -⟩ := of_validate hv
    rw [h.adapter] at ha
    obtain ⟨hid, hmanager, hidentifier⟩ := checkAdapter_ok_iff.mp ha
    obtain ⟨hnamed, hplaced, hapart⟩ := h.addable_iff.mp (resolveEntries_ok_iff.mp ⟨t, ht⟩)
    exact ⟨hid, hmanager, hidentifier, hnamed, hplaced, hapart⟩
  · rintro ⟨hid, hmanager, hidentifier, hnamed, hplaced, hapart⟩
    have ha : checkAdapter c.adapter = .ok () := by
      rw [h.adapter]
      exact checkAdapter_ok_iff.mpr ⟨hid, hmanager, hidentifier⟩
    obtain ⟨t, ht⟩ := resolveEntries_ok_iff.mpr (h.addable_iff.mpr ⟨hnamed, hplaced, hapart⟩)
    refine ⟨{ c with resolved := t }, ?_⟩
    unfold validate
    rw [ha, ht]
    rfl

theorem step_valid_iff (h : Holds c s) : (c.step .validate).1 = .valid ↔ Acceptable s := by
  rw [← h.validate_ok_iff]
  unfold step
  cases c.validate <;> simp

/-- The table is that of the entries. -/
theorem devicePath_iff (h : Holds c s) (hv : c.validate = .ok c') :
    c'.devicePath key = some path ↔ s.Lists key path := by
  obtain ⟨-, t, ht, rfl⟩ := of_validate hv
  unfold devicePath
  rw [lookup_of_resolveEntries ht]
  constructor
  · rintro (hnil | ⟨x, hx, hk, hp⟩)
    · cases hnil
    · exact ⟨x.1, x.2, (h.mem_iff x.1 x.2).mp hx, hk, hp⟩
  · rintro ⟨name, e, he, hk, hp⟩
    exact .inr ⟨(name, e), (h.mem_iff name e).mpr he, hk, hp⟩

/-- A step edits the entries as it edits the settings. -/
theorem step (h : Holds c s) (x : Step) : Holds (c.step x).2 (s.edit x) := by
  cases x with
  | put name e =>
    refine ⟨h.inOrder.insertEntry, fun n d => ?_, h.adapter⟩
    rw [show (n, d) ∈ (c.step (.put name e)).2.devices ↔ _ from h.inOrder.mem_insertEntry_iff]
    unfold Settings.edit
    by_cases hn : n = name
    · subst hn
      simp [eq_comm]
    · simp [hn, h.mem_iff]
  | remove name =>
    refine ⟨h.inOrder.filter _, fun n d => ?_, h.adapter⟩
    rw [show (n, d) ∈ (c.step (.remove name)).2.devices ↔ _ from List.mem_filter]
    unfold Settings.edit
    by_cases hn : n = name
    · subst hn
      simp
    · simp [hn, h.mem_iff]
  | setAdapter a => exact ⟨h.inOrder, h.mem_iff, rfl⟩
  | lookup key => exact h
  | validate =>
    cases hv : c.validate with
    | error e => simpa [Config.step, hv, Settings.edit] using h
    | ok c' =>
      obtain ⟨-, t, -, rfl⟩ := of_validate hv
      simpa [Config.step, hv] using ⟨h.inOrder, h.mem_iff, h.adapter⟩

end Holds

/-! ## Sessions -/

section

variable {c : Config} {steps before : List Step} {x : Step}

theorem after_snoc (c : Config) (steps : List Step) (x : Step) :
    c.after (steps ++ [x]) = ((c.after steps).step x).2 := by
  unfold after
  rw [List.foldl_append]
  rfl

theorem Settings.after_snoc (steps : List Step) (x : Step) :
    Settings.after (steps ++ [x]) = (Settings.after steps).edit x := by
  unfold Settings.after
  rw [List.foldl_append]
  rfl

theorem holds_after (steps : List Step) : Holds (after {} steps) (Settings.after steps) := by
  induction steps using List.reverseRecOn with
  | nil => exact ⟨.nil, fun name e => by simp [after, Settings.after], rfl⟩
  | append_singleton steps x ih =>
    rw [after_snoc, Settings.after_snoc]
    exact ih.step x

theorem not_lastValid_nil : ¬ LastValid [] before := by
  rintro ⟨rest, h, -⟩
  cases before <;> cases h

/-- The last validation that succeeded is the last step, or it was the last before. -/
theorem lastValid_snoc_iff : LastValid (steps ++ [x]) before ↔
    (x = .validate ∧ ((after {} steps).step .validate).1 = .valid ∧ before = steps) ∨
      ((x = .validate → ((after {} steps).step .validate).1 ≠ .valid) ∧
        LastValid steps before) := by
  constructor
  · rintro ⟨rest, h, hvalid, hlast⟩
    rcases snoc_eq_append_cons_iff.mp h with ⟨-, rfl, hx⟩ | ⟨between, rfl, rfl⟩
    · exact .inl ⟨hx, hvalid, rfl⟩
    · refine .inr ⟨?_, between, rfl, hvalid, fun xs ys h => ?_⟩
      · rintro rfl
        exact hlast between [] rfl
      · exact hlast xs (ys ++ [x]) (by simp [h])
  · rintro (⟨rfl, hvalid, rfl⟩ | ⟨hx, rest, rfl, hvalid, hlast⟩)
    · refine ⟨[], rfl, hvalid, fun xs ys h => ?_⟩
      cases xs <;> cases h
    · refine ⟨rest ++ [x], by simp, hvalid, fun xs ys h => ?_⟩
      rcases snoc_eq_append_cons_iff.mp h with ⟨-, rfl, hv⟩ | ⟨between, -, rfl⟩
      · exact hx hv
      · exact hlast xs between rfl

/-- What a step does to the table, unless it validates. -/
theorem devicePath_step (hx : x = .validate → (c.step .validate).1 ≠ .valid) (key : DeviceKey) :
    (c.step x).2.devicePath key = c.devicePath key := by
  cases x with
  | put | remove | setAdapter | lookup => rfl
  | validate =>
    have hx := hx rfl
    unfold step at hx ⊢
    cases hv : c.validate with
    | error e => rfl
    | ok c' => simp [hv] at hx

/-- A device is looked up in the settings of the last validation that succeeded. -/
theorem devicePath_after (steps : List Step) (key : DeviceKey) (path : String) :
    (after {} steps).devicePath key = some path ↔
      ∃ before, LastValid steps before ∧ (Settings.after before).Lists key path := by
  induction steps using List.reverseRecOn with
  | nil =>
    constructor
    · intro h
      cases h
    · rintro ⟨before, hlast, -⟩
      exact absurd hlast not_lastValid_nil
  | append_singleton steps x ih =>
    rw [after_snoc]
    simp only [lastValid_snoc_iff]
    by_cases hx : x = .validate ∧ ((after {} steps).step .validate).1 = .valid
    · obtain ⟨rfl, hvalid⟩ := hx
      obtain ⟨c', hv⟩ := (holds_after steps).validate_ok_iff.mpr
        ((holds_after steps).step_valid_iff.mp hvalid)
      have hstep : ((after {} steps).step .validate).2 = c' := by simp [step, hv]
      rw [hstep, (holds_after steps).devicePath_iff hv]
      simp [hvalid]
    · have hno : x = .validate → ((after {} steps).step .validate).1 ≠ .valid :=
        fun h hvalid => hx ⟨h, hvalid⟩
      rw [devicePath_step hno, ih]
      constructor
      · rintro ⟨before, hlast, hlists⟩
        exact ⟨before, .inr ⟨hno, hlast⟩, hlists⟩
      · rintro ⟨before, ⟨h, hvalid, -⟩ | ⟨-, hlast⟩, hlists⟩
        · exact absurd hvalid (hno h)
        · exact ⟨before, hlast, hlists⟩

end

/-- Every session from the default configuration. -/
theorem reflects_after (steps : List Step) : Reflects (after {} steps) steps := by
  have h := holds_after steps
  have hpath := devicePath_after steps
  generalize after {} steps = c at h hpath
  refine ⟨fun name => ?_, h.adapter, h.step_valid_iff, fun hno => ?_, ?_, hpath⟩
  · refine Option.ext fun e => ?_
    unfold entry?
    rw [h.inOrder.lookup_iff, h.mem_iff]
  · cases hv : c.validate with
    | error e => exact ⟨e, by simp [step, hv]⟩
    | ok c' => exact absurd (h.validate_ok_iff.mp ⟨c', hv⟩) hno
  · cases hv : c.validate with
    | error e => simp [step, hv]
    | ok c' =>
      obtain ⟨-, t, -, rfl⟩ := of_validate hv
      simp [step, hv]

end Config

end AspiManager
