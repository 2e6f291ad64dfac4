import ChipEight.Keypad.Layout
import ChipEight.Session
import Mathlib.Data.List.Induction
import Mathlib.Data.List.Nodup
import Mathlib.Data.Option.Basic
import Mathlib.Tactic.Common

/-!
# Key maps

A key can repeat twice on the way from a list of pairs to a key map: a name can stand in the list
more than once, and two names can have one symbol.  Both times the place is that of the first and
the value is that of the last, but the first time by the order of the list and the second time by
the order that the names have got by then.

* `Table.keys`, `Table.LastOf` — the keys of a table, and the last value that pairs give to a key.
* `Table.keys_ofPairs`, `Table.find?_ofPairs_iff` — the table of any pairs.
* `Layout.resolved`, **`Layout.keymap_eq`** — a key map is the table of the pairs that a layout has
  under its symbols, unless a name has none.
* `Layout.Resolves` — what a key map is to the pairs that its layout was made from, and
  **`Layout.resolves_keymap`**, which says so of all pairs and all symbols.
-/

namespace ChipEight

/-! ## Tables of pairs -/

namespace Table

variable {α β : Type}

/-- The keys of a table, in order. -/
def keys (table : Table α β) : List α :=
  table.map Prod.fst

/-- **The last value that pairs give to a key.** -/
def LastOf (pairs : List (α × β)) (key : α) (value : β) : Prop :=
  ∃ before after, pairs = before ++ (key, value) :: after ∧ key ∉ after.map Prod.fst

lemma not_lastOf_nil {key : α} {value : β} : ¬ LastOf [] key value := by
  rintro ⟨before, after, h, -⟩
  cases before <;> cases h

/-- One more pair is the last one of its own key and does not matter to other keys. -/
lemma lastOf_concat_iff {pairs : List (α × β)} {pair : α × β} {key : α} {value : β} :
    LastOf (pairs ++ [pair]) key value ↔
      (pair = (key, value) ∨ pair.1 ≠ key ∧ LastOf pairs key value) := by
  constructor
  · rintro ⟨before, after, hsplit, hlast⟩
    rcases List.eq_nil_or_concat after with rfl | ⟨rest, last, hafter⟩
    · exact Or.inl (List.singleton_inj.mp (List.append_inj_right' hsplit rfl))
    · rw [List.concat_eq_append] at hafter
      subst hafter
      rw [← List.cons_append, ← List.append_assoc] at hsplit
      obtain ⟨hpairs, hpair⟩ := List.append_inj' hsplit rfl
      cases hpair
      rw [List.map_append, List.mem_append, not_or] at hlast
      refine Or.inr ⟨fun heq => hlast.2 ?_, before, rest, hpairs, hlast.1⟩
      exact List.mem_singleton.mpr heq.symm
  · rintro (rfl | ⟨hne, before, after, rfl, hlast⟩)
    · exact ⟨pairs, [], rfl, List.not_mem_nil⟩
    · refine ⟨before, after ++ [pair], by simp, ?_⟩
      rw [List.map_append, List.mem_append, not_or]
      exact ⟨hlast, fun h => hne (List.mem_singleton.mp h).symm⟩

variable [DecidableEq α]

/-- A new key comes last; a key that is there stays where it is. -/
lemma keys_insert (table : Table α β) (key : α) (value : β) :
    (table.insert key value).keys =
      if key ∈ table.keys then table.keys else table.keys ++ [key] := by
  induction table with
  | nil => rfl
  | cons entry rest ih =>
      rw [insert]
      by_cases h : entry.1 = key
      · subst h
        simp [keys]
      · rw [if_neg h]
        simp only [keys, List.map_cons, List.mem_cons, Ne.symm h, false_or] at ih ⊢
        by_cases hmem : key ∈ rest.map Prod.fst
        · simp only [ih, hmem, if_true]
        · simp only [ih, hmem, if_false, List.cons_append]

lemma ofPairs_concat (pairs : List (α × β)) (pair : α × β) :
    ofPairs (pairs ++ [pair]) = (ofPairs pairs).insert pair.1 pair.2 :=
  List.foldl_append

/-- **A table has the keys of its pairs,** each in the place where it came first. -/
theorem keys_ofPairs (pairs : List (α × β)) :
    (ofPairs pairs).keys = (pairs.map Prod.fst).eraseDups := by
  induction pairs using List.reverseRecOn with
  | nil => rfl
  | append_singleton pairs pair ih =>
      rw [ofPairs_concat, keys_insert, ih, List.map_append, List.eraseDups_append]
      by_cases h : pair.1 ∈ pairs.map Prod.fst
      · simp [h, List.removeAll]
      · simp [h, List.removeAll, List.eraseDups_cons]

/-- **What is found under a key is the last value that the pairs give to it.** -/
theorem find?_ofPairs_iff {pairs : List (α × β)} {key : α} {value : β} :
    (ofPairs pairs).find? key = some value ↔ LastOf pairs key value := by
  induction pairs using List.reverseRecOn with
  | nil => exact iff_of_false nofun not_lastOf_nil
  | append_singleton pairs pair ih =>
      rw [ofPairs_concat, find?_insert, lastOf_concat_iff, ← ih]
      by_cases h : pair.1 = key
      · simp [h, Prod.ext_iff]
      · simp [h, Prod.ext_iff]

/-- No key is twice in the table of any pairs. -/
lemma nodup_keys_ofPairs (pairs : List (α × β)) : (ofPairs pairs).keys.Nodup := by
  induction pairs using List.reverseRecOn with
  | nil => exact List.nodup_nil
  | append_singleton pairs pair ih =>
      rw [ofPairs_concat, keys_insert]
      split
      · exact ih
      · rename_i hnew
        exact ih.append (List.nodup_singleton _) (List.disjoint_singleton.mpr hnew)

/-- The first entry of a key is found. -/
lemma find?_append_cons {before after : Table α β} {key : α} {value : β} (h : key ∉ before.keys) :
    find? (before ++ (key, value) :: after) key = some value := by
  induction before with
  | nil => simp [find?]
  | cons entry rest ih =>
      rw [keys, List.map_cons, List.mem_cons, not_or] at h
      rw [List.cons_append, find?, if_neg (Ne.symm h.1), ih h.2]

/-- **Where a name stands in the table of some pairs, it has the last value that they give to
it.** -/
lemma ofPairs_eq_append_cons_iff {pairs : List (α × β)} {before after : List α} {key : α}
    {value : β} :
    (∃ first last, ofPairs pairs = first ++ (key, value) :: last ∧ keys first = before ∧
        keys last = after) ↔
      (pairs.map Prod.fst).eraseDups = before ++ key :: after ∧ LastOf pairs key value := by
  have hnodup := nodup_keys_ofPairs pairs
  rw [← keys_ofPairs, ← find?_ofPairs_iff]
  constructor
  · rintro ⟨first, last, htable, rfl, rfl⟩
    rw [htable] at hnodup ⊢
    rw [keys, List.map_append, List.map_cons] at hnodup ⊢
    refine ⟨rfl, find?_append_cons ?_⟩
    exact fun hmem => (List.disjoint_of_nodup_append hnodup) hmem List.mem_cons_self
  · rintro ⟨hkeys, hfind⟩
    obtain ⟨first, rest, htable, rfl, hrest⟩ := List.map_eq_append_iff.mp hkeys
    obtain ⟨⟨name, other⟩, last, rfl, rfl, rfl⟩ := List.map_eq_cons_iff.mp hrest
    rw [htable] at hnodup hfind
    rw [keys, List.map_append, List.map_cons] at hnodup
    have hnew : name ∉ keys first :=
      fun hmem => List.disjoint_of_nodup_append hnodup hmem List.mem_cons_self
    rw [find?_append_cons hnew, Option.some.injEq] at hfind
    subst hfind
    exact ⟨first, last, htable, rfl, rfl⟩

end Table

/-! ## Key maps of layouts -/

namespace Layout

variable {σ δ : Type}

/-- **The pairs that a layout has under symbols,** without the names that have none. -/
def resolved (layout : Layout δ) (symbol : String → Option σ) : List (σ × δ) :=
  layout.filterMap fun entry => (symbol entry.1).map (·, entry.2)

/-- The first name that has no symbol. -/
def firstUnknown? (names : List String) (symbol : String → Option σ) : Option String :=
  names.find? fun name => (symbol name).isNone

lemma firstUnknown?_eq_some_iff {names : List String} {symbol : String → Option σ} {name : String} :
    firstUnknown? names symbol = some name ↔
      ∃ before after, names = before ++ name :: after ∧ symbol name = none ∧
        ∀ other ∈ before, symbol other ≠ none := by
  simp only [firstUnknown?, List.find?_eq_some_iff_append, Option.isNone_iff_eq_none,
    Bool.not_eq_true', Option.isNone_eq_false_iff, Option.isSome_iff_ne_none]
  constructor
  · rintro ⟨hname, before, after, hsplit, hbefore⟩
    exact ⟨before, after, hsplit, hname, hbefore⟩
  · rintro ⟨before, after, hsplit, hname, hbefore⟩
    exact ⟨hname, before, after, hsplit, hbefore⟩

lemma firstUnknown?_eq_none_iff {names : List String} {symbol : String → Option σ} :
    firstUnknown? names symbol = none ↔ ∀ name ∈ names, symbol name ≠ none := by
  simp [firstUnknown?]

/-- **A key map is the table of the pairs that a layout has under its symbols,** or the first name
that has none. -/
theorem keymap_eq [DecidableEq σ] (layout : Layout δ) (symbol : String → Option σ) :
    layout.keymap symbol =
      match firstUnknown? layout.keys symbol with
      | some name => .error name
      | none => .ok (Table.ofPairs (layout.resolved symbol)) := by
  rw [keymap, Table.ofPairs]
  generalize ([] : Table σ δ) = map
  induction layout generalizing map with
  | nil => rfl
  | cons entry rest ih =>
      rw [List.foldlM_cons]
      cases hsymbol : symbol entry.1 with
      | none => simp [firstUnknown?, Table.keys, hsymbol, bind, Except.bind]
      | some key =>
          simp only [bind, Except.bind, ih, firstUnknown?, Table.keys, resolved, List.map_cons,
            List.filterMap_cons, hsymbol, List.find?_cons, Option.isNone_some, Option.map_some,
            List.foldl_cons]

/-- A pair under a symbol comes from an entry whose name has it. -/
lemma mem_keys_resolved_iff {layout : Layout δ} {symbol : String → Option σ} {key : σ} :
    key ∈ (layout.resolved symbol).map Prod.fst ↔ ∃ name ∈ layout.keys, symbol name = some key := by
  simp only [resolved, Table.keys, List.mem_map, List.mem_filterMap, Option.map_eq_some_iff]
  constructor
  · rintro ⟨pair, ⟨entry, hmem, key, hsymbol, rfl⟩, rfl⟩
    exact ⟨entry.1, ⟨entry, hmem, rfl⟩, hsymbol⟩
  · rintro ⟨name, ⟨entry, hmem, rfl⟩, hsymbol⟩
    exact ⟨(key, entry.2), ⟨entry, hmem, key, hsymbol, rfl⟩, rfl⟩

/-- **The last pair under a symbol comes from the last entry whose name has it.** -/
lemma lastOf_resolved_iff {layout : Layout δ} {symbol : String → Option σ} {key : σ} {digit : δ} :
    Table.LastOf (layout.resolved symbol) key digit ↔
      ∃ before name after, layout = before ++ (name, digit) :: after ∧ symbol name = some key ∧
        ∀ other ∈ Table.keys after, symbol other ≠ some key := by
  constructor
  · rintro ⟨before, after, hsplit, hlast⟩
    obtain ⟨first, rest, hlayout, -, hrest⟩ := List.filterMap_eq_append_iff.mp hsplit
    obtain ⟨skipped, entry, last, rfl, -, hentry, rfl⟩ := List.filterMap_eq_cons_iff.mp hrest
    obtain ⟨other, hsymbol, hpair⟩ := Option.map_eq_some_iff.mp hentry
    cases hpair
    refine ⟨first ++ skipped, entry.1, last, by simp [hlayout], hsymbol, ?_⟩
    intro name hname heq
    exact hlast (mem_keys_resolved_iff.mpr ⟨name, hname, heq⟩)
  · rintro ⟨before, name, after, rfl, hsymbol, hlast⟩
    refine ⟨resolved before symbol, resolved after symbol, ?_, ?_⟩
    · simp [resolved, hsymbol]
    · intro hmem
      obtain ⟨other, hother, heq⟩ := mem_keys_resolved_iff.mp hmem
      exact hlast other hother heq

/-- No two of the names have one symbol. -/
def SymbolsApart (names : List String) (symbol : String → Option σ) : Prop :=
  ∀ name ∈ names, ∀ other ∈ names, symbol name = symbol other → name = other

variable [DecidableEq σ]

/-- **What a key map is to the pairs of its layout** and to the symbols of their names. -/
structure Resolves (pairs : List (String × δ)) (symbol : String → Option σ) (map : Table σ δ) :
    Prop where
  /-- The key map has an entry for each symbol of a name, and for no other. -/
  mem_keys_iff : ∀ key, key ∈ map.keys ↔ ∃ name ∈ pairs.map Prod.fst, symbol name = some key
  /-- A symbol has one entry only. -/
  nodup_keys : map.keys.Nodup
  /-- Of the names with a symbol the last one counts, by the order in which the names first came,
  with the last digit that the pairs give to it. -/
  find?_eq_some_iff : ∀ key digit, map.find? key = some digit ↔
    ∃ before name after, (pairs.map Prod.fst).eraseDups = before ++ name :: after ∧
      symbol name = some key ∧ (∀ other ∈ after, symbol other ≠ some key) ∧
      Table.LastOf pairs name digit
  /-- If no two names have one symbol, there are as many entries as names, -/
  length_eq : SymbolsApart (pairs.map Prod.fst) symbol →
    map.length = (pairs.map Prod.fst).eraseDups.length
  /-- and under the symbol of a name its own digit is found. -/
  find?_symbol : SymbolsApart (pairs.map Prod.fst) symbol → ∀ name key digit,
    symbol name = some key → Table.LastOf pairs name digit → map.find? key = some digit

variable {pairs : List (String × δ)} {symbol : String → Option σ}

/-- The names of a layout are those of its pairs. -/
lemma mem_keys_ofPairs {name : String} :
    name ∈ Table.keys (Table.ofPairs pairs) ↔ name ∈ pairs.map Prod.fst := by
  rw [Table.keys_ofPairs, List.mem_eraseDups]

/-- A symbol is in the key map if a name has it. -/
lemma mem_keys_keymap_iff (key : σ) :
    key ∈ (Table.ofPairs (resolved (Table.ofPairs pairs) symbol)).keys ↔
      ∃ name ∈ pairs.map Prod.fst, symbol name = some key := by
  rw [Table.keys_ofPairs, List.mem_eraseDups, mem_keys_resolved_iff]
  simp only [mem_keys_ofPairs]

/-- Of the names with a symbol the last one counts. -/
lemma find?_keymap_iff (key : σ) (digit : δ) :
    (Table.ofPairs (resolved (Table.ofPairs pairs) symbol)).find? key = some digit ↔
      ∃ before name after, (pairs.map Prod.fst).eraseDups = before ++ name :: after ∧
        symbol name = some key ∧ (∀ other ∈ after, symbol other ≠ some key) ∧
        Table.LastOf pairs name digit := by
  rw [Table.find?_ofPairs_iff, lastOf_resolved_iff]
  constructor
  · rintro ⟨first, name, last, hlayout, hsymbol, hlast⟩
    obtain ⟨hnames, hdigit⟩ :=
      Table.ofPairs_eq_append_cons_iff.mp ⟨first, last, hlayout, rfl, rfl⟩
    exact ⟨_, name, _, hnames, hsymbol, hlast, hdigit⟩
  · rintro ⟨before, name, after, hnames, hsymbol, hlast, hdigit⟩
    obtain ⟨first, last, hlayout, -, rfl⟩ :=
      Table.ofPairs_eq_append_cons_iff.mpr ⟨hnames, hdigit⟩
    exact ⟨first, name, last, hlayout, hsymbol, hlast⟩

/-- With symbols apart there is an entry for each name. -/
lemma length_keymap (known : ∀ name ∈ pairs.map Prod.fst, symbol name ≠ none)
    (apart : SymbolsApart (pairs.map Prod.fst) symbol) :
    (Table.ofPairs (resolved (Table.ofPairs pairs) symbol)).length =
      (pairs.map Prod.fst).eraseDups.length := by
  have hkeys := Table.nodup_keys_ofPairs (resolved (Table.ofPairs pairs) symbol)
  have hnames := Table.nodup_keys_ofPairs pairs
  have hsymbols : ((Table.ofPairs pairs).keys.map symbol).Nodup :=
    hnames.map_on fun name hname other hother =>
      apart name (mem_keys_ofPairs.mp hname) other (mem_keys_ofPairs.mp hother)
  -- the keys of the map and the symbols of the names are the same, each without repetition
  have hperm : ((Table.ofPairs (resolved (Table.ofPairs pairs) symbol)).keys.map some).Perm
      ((Table.ofPairs pairs).keys.map symbol) := by
    rw [List.perm_ext_iff_of_nodup (hkeys.map (Option.some_injective σ)) hsymbols]
    intro key?
    simp only [List.mem_map, mem_keys_keymap_iff, mem_keys_ofPairs]
    constructor
    · rintro ⟨key, ⟨name, hname, hsymbol⟩, rfl⟩
      exact ⟨name, hname, hsymbol⟩
    · rintro ⟨name, hname, rfl⟩
      obtain ⟨key, hkey⟩ := Option.ne_none_iff_exists'.mp (known name (List.mem_map.mpr hname))
      exact ⟨key, ⟨name, hname, hkey⟩, hkey.symm⟩
  have hlength := hperm.length_eq
  rw [List.length_map, List.length_map, Table.keys_ofPairs pairs] at hlength
  rw [← hlength, Table.keys, List.length_map]

/-- With symbols apart each name is the only one, and so the last one, that has its symbol. -/
lemma find?_keymap_of_apart (apart : SymbolsApart (pairs.map Prod.fst) symbol) {name : String}
    {key : σ} {digit : δ} (hsymbol : symbol name = some key)
    (hdigit : Table.LastOf pairs name digit) :
    (Table.ofPairs (resolved (Table.ofPairs pairs) symbol)).find? key = some digit := by
  have hmem : name ∈ pairs.map Prod.fst := by
    obtain ⟨before, after, rfl, -⟩ := hdigit
    simp
  obtain ⟨before, after, hnames⟩ := List.append_of_mem (List.mem_eraseDups.mpr hmem)
  refine (find?_keymap_iff key digit).mpr ⟨before, name, after, hnames, hsymbol, ?_, hdigit⟩
  intro other hother heq
  have hnodup := Table.nodup_keys_ofPairs pairs
  rw [Table.keys_ofPairs, hnames] at hnodup
  have hmemOther : other ∈ pairs.map Prod.fst := by
    rw [← List.mem_eraseDups, hnames]
    exact List.mem_append_right _ (List.mem_cons_of_mem _ hother)
  have hsame := apart name hmem other hmemOther (hsymbol.trans heq.symm)
  subst hsame
  exact (List.nodup_cons.mp (List.nodup_append'.mp hnodup).2.1).1 hother

/-- If every name has a symbol, the key map is what it should be. -/
lemma resolves_ofPairs (known : ∀ name ∈ pairs.map Prod.fst, symbol name ≠ none) :
    Resolves pairs symbol (Table.ofPairs (resolved (Table.ofPairs pairs) symbol)) where
  mem_keys_iff := mem_keys_keymap_iff
  nodup_keys := Table.nodup_keys_ofPairs _
  find?_eq_some_iff := find?_keymap_iff
  length_eq := length_keymap known
  find?_symbol := fun apart _ _ _ hsymbol hdigit => find?_keymap_of_apart apart hsymbol hdigit

/-- A key that was pressed by its digit is held, and the digit is typed. -/
lemma replies_press (session : Session) (digit : Fin 16) :
    let pressed := (session.perform (.press digit.val)).session
    (pressed.perform (.isDown digit.val)).reply = .ok (.truth true) ∧
      (pressed.perform .typed).reply = .ok (.typed (some digit.val)) := by
  simp only [Session.perform, Session.onKey, Numbering.place?_natCast digit.isLt,
    Session.withKeypad, Keypad.isDown_press, if_true, true_and]
  rfl

/-- **The key map of any pairs under any symbols.**  It fails just if a name has no symbol, with the
first of these names.  Otherwise it resolves the pairs; and if no two names have one symbol, then a
key that is pressed by its symbol is held and typed as the digit of its name. -/
theorem resolves_keymap (pairs : List (String × Int)) (symbol : String → Option σ) :
    let layout : Layout Int := Table.ofPairs pairs
    ((∃ name, layout.keymap symbol = .error name) ↔
        ∃ name ∈ pairs.map Prod.fst, symbol name = none) ∧
      (∀ name, layout.keymap symbol = .error name ↔
        ∃ before after, (pairs.map Prod.fst).eraseDups = before ++ name :: after ∧
          symbol name = none ∧ ∀ other ∈ before, symbol other ≠ none) ∧
      ∀ map, layout.keymap symbol = .ok map →
        Resolves pairs symbol map ∧
          (SymbolsApart (pairs.map Prod.fst) symbol →
            ∀ (name : String) (key : σ) (digit : Fin 16), symbol name = some key →
              Table.LastOf pairs name digit.val →
              ∃ number, map.find? key = some number ∧ ∀ session : Session,
                let pressed := (session.perform (.press number)).session
                (pressed.perform (.isDown digit.val)).reply = .ok (.truth true) ∧
                  (pressed.perform .typed).reply = .ok (.typed (some digit.val))) := by
  intro layout
  have hkeymap := keymap_eq layout symbol
  rw [Table.keys_ofPairs] at hkeymap
  cases hunknown : firstUnknown? (pairs.map Prod.fst).eraseDups symbol with
  | none =>
      have known := firstUnknown?_eq_none_iff.mp hunknown
      rw [hunknown] at hkeymap
      have resolves := resolves_ofPairs fun name hname => known name (List.mem_eraseDups.mpr hname)
      refine ⟨iff_of_false ?_ ?_, fun name => iff_of_false ?_ ?_, ?_⟩
      · rintro ⟨name, h⟩
        rw [hkeymap] at h
        cases h
      · rintro ⟨name, hname, h⟩
        exact known name (List.mem_eraseDups.mpr hname) h
      · intro h
        rw [hkeymap] at h
        cases h
      · rintro ⟨before, after, hnames, h, -⟩
        exact known name (by simp [hnames]) h
      · intro map h
        rw [hkeymap] at h
        cases h
        refine ⟨resolves, fun apart name key digit hsymbol hdigit => ?_⟩
        exact ⟨_, resolves.find?_symbol apart name key _ hsymbol hdigit,
          fun session => replies_press session digit⟩
  | some first =>
      obtain ⟨before, after, hnames, hfirst, -⟩ := firstUnknown?_eq_some_iff.mp hunknown
      rw [hunknown] at hkeymap
      refine ⟨iff_of_true ⟨first, hkeymap⟩ ⟨first, ?_, hfirst⟩, fun name => ?_, ?_⟩
      · rw [← List.mem_eraseDups, hnames]
        exact List.mem_append_right _ List.mem_cons_self
      · rw [← firstUnknown?_eq_some_iff, hunknown, hkeymap]
        simp
      · intro map h
        rw [hkeymap] at h
        cases h

/-- The name `A` is given 1 and, after `B`, once more 3.  Where both names have one symbol, `B`
counts, since it comes last by where the names first came; where they have not, `A` has 3. -/
theorem resolves_keymap_repeated :
    let pairs : List (String × Int) := [("A", 1), ("B", 2), ("A", 3)]
    let shared : String → Option Nat := fun name => if name = "C" then none else some 65
    let apart : String → Option Nat := fun name => if name = "A" then some 65 else some 66
    let lacking : String → Option Nat := fun name => if name = "A" then some 65 else none
    Resolves pairs shared [(65, 2)] ∧ Resolves pairs apart [(65, 3), (66, 2)] ∧
      (∃ number, Table.find? [(65, 3), (66, 2)] 65 = some number ∧ ∀ session : Session,
        (((session.perform (.press number)).session).perform .typed).reply =
          .ok (.typed (some 3))) ∧
      ∃ name ∈ pairs.map Prod.fst, lacking name = none := by
  intro pairs shared apart lacking
  have hlacking : keymap (Table.ofPairs pairs) lacking = .error "B" := rfl
  have hapart := (resolves_keymap pairs apart).2.2 [(65, 3), (66, 2)] rfl
  have distinct : SymbolsApart (pairs.map Prod.fst) apart := by
    unfold SymbolsApart
    decide
  have hlast : Table.LastOf pairs "A" 3 := ⟨[("A", 1), ("B", 2)], [], rfl, List.not_mem_nil⟩
  obtain ⟨number, hfind, hpressed⟩ := hapart.2 distinct "A" 65 3 rfl hlast
  exact ⟨((resolves_keymap pairs shared).2.2 _ rfl).1, hapart.1,
    ⟨number, hfind, fun session => (hpressed session).2⟩,
    (resolves_keymap pairs lacking).1.mp ⟨_, hlacking⟩⟩

end Layout

end ChipEight
