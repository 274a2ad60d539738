import Mathlib
import MacroTrace.Builtin
/-!
# Tables of builtins

A table of builtins is filled by requests, each of which binds a number to a name, or fails. What
was bound, in order, is the history of the table (`Registry.bindings`), and the table records it
(`Registry.Records`): a number has the name that it was bound to last, and the counter is the
largest number that was bound. So all answers of the table are told by its history, and a fresh
number is larger than all numbers before it (`Registry.table_tells_history`).
-/

namespace MacroTrace

namespace Registry

/-! ## Requests -/

/-- What a caller can ask of a table. -/
inductive Request
  /-- To bind a fresh number to a name. -/
  | register (name : String)
  /-- To bind a chosen number to a name. -/
  | insert (id : BuiltinId) (name : String)

/-- The table after a request. One that fails leaves it as it is. -/
def after (r : Registry) : Request → Registry
  | .register name => match r.register? name with
    | some (_, r) => r
    | none => r
  | .insert id name => r.insert id name

/-- What a request binds, unless it fails. -/
def bound? (r : Registry) : Request → Option (BuiltinId × String)
  | .register name => (r.register? name).map fun made => (made.1, name)
  | .insert id name => some (id, name)

/-- The table after requests. -/
def afterAll (r : Registry) (requests : List Request) : Registry := requests.foldl after r

/-- What requests bind, in order. -/
def bindings (r : Registry) : List Request → List (BuiltinId × String)
  | [] => []
  | request :: rest => (r.bound? request).toList ++ (r.after request).bindings rest

/-- The name that a number was bound to last. -/
def latest? (history : List (BuiltinId × String)) (id : BuiltinId) : Option String :=
  (history.reverse.find? (·.1 == id)).map (·.2)

theorem latest?_append (history : List (BuiltinId × String)) (id j : BuiltinId) (name : String) :
    latest? (history ++ [(id, name)]) j = if j = id then some name else latest? history j := by
  rw [latest?, List.reverse_append, List.reverse_singleton, List.singleton_append, List.find?_cons]
  by_cases hj : j = id
  · simp [hj]
  · simp [beq_false_of_ne (Ne.symm hj), hj, latest?]

theorem latest?_eq_some {history : List (BuiltinId × String)} {id : BuiltinId} {name : String} :
    latest? history id = some name ↔
      ∃ before later, history = before ++ (id, name) :: later ∧ ∀ b ∈ later, b.1 ≠ id := by
  constructor
  · intro h
    obtain ⟨⟨i, n⟩, hfound, rfl⟩ := Option.map_eq_some_iff.mp h
    obtain ⟨hid, later, before, hsplit, hlater⟩ := List.find?_eq_some_iff_append.mp hfound
    obtain rfl : i = id := eq_of_beq hid
    refine ⟨before.reverse, later.reverse, ?_, fun b hb => ?_⟩
    · simpa using congrArg List.reverse hsplit
    · simpa using hlater b (List.mem_reverse.mp hb)
  · rintro ⟨before, later, rfl, hlater⟩
    refine Option.map_eq_some_iff.mpr ⟨(id, name), List.find?_eq_some_iff_append.mpr ?_, rfl⟩
    exact ⟨beq_self_eq_true id, later.reverse, before.reverse, by simp,
      fun b hb => by simpa using hlater b (List.mem_reverse.mp hb)⟩

theorem latest?_eq_none {history : List (BuiltinId × String)} {id : BuiltinId} :
    latest? history id = none ↔ ∀ b ∈ history, b.1 ≠ id := by
  simp [latest?]

/-! ## Looking up -/

/-- The numbers of entries. -/
def numbers (entries : List (BuiltinId × String)) : List BuiltinId := entries.map Prod.fst

theorem mem_numbers {r : Registry} {id : BuiltinId} :
    id ∈ numbers r.entries ↔ (r.name? id).isSome := by
  simp [numbers, name?]

theorem mem_of_name? {r : Registry} {id : BuiltinId} {name : String} (h : r.name? id = some name) :
    (id, name) ∈ r.entries := by
  obtain ⟨⟨i, n⟩, hfound, rfl⟩ := Option.map_eq_some_iff.mp h
  have hid := List.find?_some hfound
  obtain rfl : i = id := eq_of_beq hid
  exact List.mem_of_find?_eq_some hfound

/-- Each number that is in use once is found with its own name. -/
theorem name?_eq_some {r : Registry} (hnodup : (numbers r.entries).Nodup) {id : BuiltinId}
    {name : String} : r.name? id = some name ↔ (id, name) ∈ r.entries := by
  refine ⟨mem_of_name?, fun hmem => ?_⟩
  obtain ⟨n, hn⟩ := Option.isSome_iff_exists.mp (mem_numbers.mp (List.mem_map_of_mem hmem))
  have hsame : (id, n) = (id, name) :=
    List.inj_on_of_nodup_map hnodup (mem_of_name? hn) hmem rfl
  rwa [(Prod.mk.inj hsame).2] at hn

theorem id?_eq_none {r : Registry} {name : String} :
    r.id? name = none ↔ ∀ entry ∈ r.entries, entry.2 ≠ name := by
  simp [id?]

theorem mem_of_id? {r : Registry} {name : String} {id : BuiltinId} (h : r.id? name = some id) :
    (id, name) ∈ r.entries := by
  obtain ⟨⟨i, n⟩, hfound, rfl⟩ := Option.map_eq_some_iff.mp h
  have hname := List.find?_some hfound
  obtain rfl : n = name := eq_of_beq hname
  exact List.mem_of_find?_eq_some hfound

/-! ## Binding -/

/-- Binding a number changes the name of this number and of no other. -/
theorem find?_bind (entries : List (BuiltinId × String)) (id j : BuiltinId) (name : String) :
    ((bind entries id name).find? (·.1 == j)).map (·.2) =
      if j = id then some name else (entries.find? (·.1 == j)).map (·.2) := by
  induction entries with
  | nil =>
    by_cases hj : j = id
    · simp [bind, hj]
    · simp [bind, hj, Ne.symm hj]
  | cons entry rest ih =>
    obtain ⟨i, n⟩ := entry
    rw [bind]
    by_cases hi : i = id
    · by_cases hj : j = id
      · simp [hi, hj]
      · simp [hi, hj, Ne.symm hj]
    · rw [if_neg hi, List.find?_cons, List.find?_cons]
      by_cases hij : i = j
      · simp [hij, hij ▸ hi]
      · simpa [beq_false_of_ne hij] using ih

/-- A number is added to those in use unless it is one of them. -/
theorem numbers_bind (entries : List (BuiltinId × String)) (id : BuiltinId) (name : String) :
    numbers (bind entries id name) =
      if id ∈ numbers entries then numbers entries else numbers entries ++ [id] := by
  induction entries with
  | nil => rfl
  | cons entry rest ih =>
    obtain ⟨i, n⟩ := entry
    rw [bind]
    by_cases hi : i = id
    · simp [hi, numbers]
    · rw [if_neg hi]
      simp only [numbers, List.map_cons] at ih ⊢
      rw [ih]
      by_cases hid : id ∈ rest.map Prod.fst
      · simp [hid]
      · simp [hid, Ne.symm hi]

theorem nodup_numbers_bind {entries : List (BuiltinId × String)} (h : (numbers entries).Nodup)
    (id : BuiltinId) (name : String) : (numbers (bind entries id name)).Nodup := by
  rw [numbers_bind]
  split
  · exact h
  · rename_i hid
    exact List.nodup_append.mpr ⟨h, List.nodup_singleton id, by
      rintro j hj _ hmem rfl
      rw [List.mem_singleton.mp hmem] at hj
      exact hid hj⟩

/-- Registering fails only if the counter has come to its end. -/
theorem register?_eq_none {r : Registry} {name : String} :
    r.register? name = none ↔ r.last.toNat = 0xFFFFFFFF := by
  have hlast := r.last.toNat_lt
  have hsize : UInt32.size = 0x100000000 := rfl
  unfold register?
  split
  · exact iff_of_false (by simp) (by omega)
  · exact iff_of_true rfl (by omega)

/-- A fresh number is the next one behind the counter. -/
theorem register?_eq_some {r r' : Registry} {name : String} {id : BuiltinId}
    (h : r.register? name = some (id, r')) :
    id.number.toNat = r.last.toNat + 1 ∧
      r' = { entries := bind r.entries id name, last := id.number } := by
  unfold register? at h
  split at h
  · rename_i hroom
    cases h
    refine ⟨?_, rfl⟩
    rw [UInt32.toNat_add]
    exact Nat.mod_eq_of_lt hroom
  · cases h

/-! ## What a table records -/

theorem toNat_max (m n : UInt32) : (max m n).toNat = max m.toNat n.toNat := by
  show (if m ≤ n then n else m).toNat = _
  split
  · rename_i hle
    exact (Nat.max_eq_right (UInt32.le_iff_toNat_le.mp hle)).symm
  · rename_i hle
    exact (Nat.max_eq_left (Nat.le_of_not_le fun h => hle (UInt32.le_iff_toNat_le.mpr h))).symm

theorem max_eq_or (m n : UInt32) : max m n = m ∨ max m n = n := by
  rw [← UInt32.toNat_inj, ← UInt32.toNat_inj, toNat_max]
  exact max_choice m.toNat n.toNat

/-- The table gives the names that numbers were bound to last, each number once, and its counter is
the largest number bound. -/
structure Records (r : Registry) (history : List (BuiltinId × String)) : Prop where
  name?_eq : ∀ id, r.name? id = latest? history id
  nodup : (numbers r.entries).Nodup
  le_last : ∀ b ∈ history, b.1.number.toNat ≤ r.last.toNat
  last_mem : r.last = 0 ∨ ∃ b ∈ history, b.1.number = r.last

theorem records_empty : empty.Records [] where
  name?_eq _ := rfl
  nodup := List.nodup_nil
  le_last _ hb := nomatch hb
  last_mem := .inl rfl

namespace Records

variable {r : Registry} {history : List (BuiltinId × String)}

/-- Binding a number keeps the record, if the counter is moved up to that number. -/
theorem bind (h : r.Records history) (id : BuiltinId) (name : String) :
    Records { entries := Registry.bind r.entries id name, last := max r.last id.number }
      (history ++ [(id, name)]) where
  name?_eq j := by
    rw [latest?_append, ← h.name?_eq]
    exact find?_bind r.entries id j name
  nodup := nodup_numbers_bind h.nodup id name
  le_last := by
    refine List.forall_mem_append.mpr ⟨fun b hb => ?_, List.forall_mem_singleton.mpr ?_⟩
    · exact (h.le_last b hb).trans (toNat_max _ _ ▸ le_max_left _ _)
    · exact toNat_max _ _ ▸ le_max_right _ _
  last_mem := by
    rcases max_eq_or r.last id.number with hmax | hmax
    · rw [hmax]
      exact h.last_mem.imp_right fun ⟨b, hb, hlast⟩ => ⟨b, List.mem_append_left _ hb, hlast⟩
    · exact .inr ⟨(id, name), by simp, hmax.symm⟩

/-- A request adds to the record what it binds. -/
theorem after (h : r.Records history) (request : Request) :
    (r.after request).Records (history ++ (r.bound? request).toList) := by
  cases request with
  | insert id name => exact h.bind id name
  | register name =>
    cases hmade : r.register? name with
    | none => simpa [Registry.after, bound?, hmade] using h
    | some made =>
      obtain ⟨id, r'⟩ := made
      obtain ⟨hid, rfl⟩ := register?_eq_some hmade
      -- The counter is set to the fresh number, which is the same as moved up to it.
      have hnext : max r.last id.number = id.number := by
        rw [← UInt32.toNat_inj, toNat_max, hid]
        omega
      have hbound := h.bind id name
      rw [hnext] at hbound
      simpa [Registry.after, bound?, hmade] using hbound

theorem afterAll (h : r.Records history) (requests : List Request) :
    (r.afterAll requests).Records (history ++ r.bindings requests) := by
  induction requests generalizing r history with
  | nil => simpa [Registry.afterAll, bindings] using h
  | cons request rest ih =>
    rw [bindings, ← List.append_assoc]
    exact ih (h.after request)

/-- The numbers in use are those that were bound. -/
theorem mem_numbers_iff (h : r.Records history) {id : BuiltinId} :
    id ∈ numbers r.entries ↔ id ∈ history.map Prod.fst := by
  rw [mem_numbers, h.name?_eq, ← Option.ne_none_iff_isSome, Ne, latest?_eq_none]
  simp

theorem size_eq (h : r.Records history) : r.size = (history.map Prod.fst).toFinset.card := by
  have hsame : (history.map Prod.fst).toFinset = (numbers r.entries).toFinset := by
    ext id
    rw [List.mem_toFinset, List.mem_toFinset, h.mem_numbers_iff]
  rw [hsame, List.toFinset_card_of_nodup h.nodup, numbers, List.length_map]
  rfl

/-- In whatever order the entries are gone through, a number is found for each name in use. -/
theorem id?_of_perm (h : r.Records history) {entries : List (BuiltinId × String)}
    (hperm : entries.Perm r.entries) (name : String) :
    let shuffled : Registry := { r with entries }
    (shuffled.id? name = none ↔ ∀ id, r.name? id ≠ some name) ∧
      ∀ id, shuffled.id? name = some id → r.name? id = some name := by
  refine ⟨?_, fun id hid => ?_⟩
  · rw [id?_eq_none]
    constructor
    · intro hall id hid
      exact hall (id, name) (hperm.mem_iff.mpr ((name?_eq_some h.nodup).mp hid)) rfl
    · rintro hnone ⟨id, n⟩ hmem rfl
      exact hnone id ((name?_eq_some h.nodup).mpr (hperm.mem_iff.mp hmem))
  · exact (name?_eq_some h.nodup).mpr (hperm.mem_iff.mp (mem_of_id? hid))

/-- A fresh number is larger than all that were bound. -/
theorem fresh (h : r.Records history) {r' : Registry} {name : String} {id : BuiltinId}
    (hmade : r.register? name = some (id, r')) : ∀ b ∈ history, b.1.number < id.number := by
  intro b hb
  have hle := h.le_last b hb
  have hid := (register?_eq_some hmade).1
  exact UInt32.lt_iff_toNat_lt.mpr (by omega)

theorem register?_eq_none_iff (h : r.Records history) {name : String} :
    r.register? name = none ↔ ∃ b ∈ history, b.1.number = 0xFFFFFFFF := by
  rw [register?_eq_none]
  constructor
  · intro hlast
    -- A counter at its end is not the one of a new table, so its number was bound.
    rcases h.last_mem with hzero | ⟨b, hb, hnumber⟩
    · rw [hzero] at hlast
      cases hlast
    · exact ⟨b, hb, UInt32.toNat_inj.mp (hnumber ▸ hlast)⟩
  · rintro ⟨b, hb, hnumber⟩
    have hle := h.le_last b hb
    have hlast := r.last.toNat_lt
    have hlargest : b.1.number.toNat = 0xFFFFFFFF := congrArg UInt32.toNat hnumber
    omega

end Records

/-- After any requests to a new table, each number has the name that it was bound to last, and none
if it never was; there are as many entries as numbers that were bound; and a name leads to a number
of that name if there is one, in whatever order the entries are gone through. A request for a fresh
number gives one that is larger than all numbers bound before, so that no entry is replaced; it
fails if and only if the largest number of all has been bound, and then the table stays as it is. -/
theorem table_tells_history (requests : List Request) :
    let r := empty.afterAll requests
    let history := empty.bindings requests
    (∀ id name, r.name? id = some name ↔
      ∃ before later, history = before ++ (id, name) :: later ∧ ∀ b ∈ later, b.1 ≠ id) ∧
    (∀ id, r.name? id = none ↔ ∀ b ∈ history, b.1 ≠ id) ∧
    r.size = (history.map Prod.fst).toFinset.card ∧
    (∀ entries, entries.Perm r.entries → ∀ name,
      let shuffled : Registry := { r with entries }
      (shuffled.id? name = none ↔ ∀ id, r.name? id ≠ some name) ∧
      ∀ id, shuffled.id? name = some id → r.name? id = some name) ∧
    (∀ name id r', r.register? name = some (id, r') →
      (∀ b ∈ history, b.1.number < id.number) ∧ r.name? id = none ∧
      ∀ j, r'.name? j = if j = id then some name else r.name? j) ∧
    (∀ name, r.register? name = none ↔ ∃ b ∈ history, b.1.number = 0xFFFFFFFF) ∧
    ∀ name, r.register? name = none → empty.afterAll (requests ++ [.register name]) = r := by
  intro r history
  have h : r.Records history := records_empty.afterAll requests
  refine ⟨fun id name => ?_, fun id => ?_, h.size_eq, fun entries => h.id?_of_perm,
    fun name id r' hmade => ?_, fun name => h.register?_eq_none_iff, fun name hfull => ?_⟩
  · rw [h.name?_eq, latest?_eq_some]
  · rw [h.name?_eq, latest?_eq_none]
  · have hfresh := h.fresh hmade
    refine ⟨hfresh, ?_, fun j => ?_⟩
    · rw [h.name?_eq, latest?_eq_none]
      rintro b hb rfl
      exact UInt32.lt_irrefl _ (hfresh b hb)
    · rw [(register?_eq_some hmade).2]
      exact find?_bind r.entries id j name
  · rw [afterAll, List.foldl_append, List.foldl_cons, List.foldl_nil]
    simp only [after]
    rw [show List.foldl after empty requests = r from rfl, hfull]

/-- A number that is bound again, and a table whose largest number is taken. -/
theorem table_tells_history_instance :
    (empty.afterAll [.register "incr", .insert ⟨1⟩ "decr", .insert ⟨0⟩ "incr"]).name? ⟨1⟩ =
      some "decr" ∧
    (empty.afterAll [.insert ⟨0xFFFFFFFF⟩ "eval"]).register? "incr" = none := by
  obtain ⟨hname, -⟩ :=
    table_tells_history [.register "incr", .insert ⟨1⟩ "decr", .insert ⟨0⟩ "incr"]
  obtain ⟨-, -, -, -, -, hfull, -⟩ := table_tells_history [.insert ⟨0xFFFFFFFF⟩ "eval"]
  refine ⟨(hname ⟨1⟩ "decr").mpr ⟨[(⟨1⟩, "incr")], [(⟨0⟩, "incr")], rfl, by decide⟩, ?_⟩
  exact (hfull "incr").mpr ⟨(⟨0xFFFFFFFF⟩, "eval"), List.mem_singleton_self _, rfl⟩

end Registry

end MacroTrace
