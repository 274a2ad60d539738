import MacroTrace.Stream.FileWriter
/-!
# What is in a file, and what is still held back from it

`FileStore.bytesAt` is the view of a store that matters for debug output: the bytes in the file of a
number. Opening for appending changes nothing in this view, and appending changes one file only.
`FileWriter.Adds` says what a writer may do to it: between the file and the held bytes nothing is
lost, doubled or put out of order.
-/

namespace MacroTrace

/-- A node without what is in it, if it is a file. -/
def Node.shape : Node → Node
  | regular _ => regular []
  | node => node

namespace FileStore

/-- A store without what is in its files. -/
def shape (s : FileStore) : FileStore := { s with nodes := s.nodes.map Node.shape }

/-- The bytes in the file of a number; what is no file has none. -/
def bytesAt (s : FileStore) (node : Nat) : Bytes := (s.contents node).toOption.getD []

theorem bytesAt_eq (s : FileStore) (node : Nat) :
    s.bytesAt node = match s.nodes[node]? with
      | some (.regular contents) => contents
      | _ => [] := by
  unfold bytesAt contents
  split <;> simp_all [Except.toOption]

/-! ## Appending -/

/-- Appending changes the identity of no node. -/
theorem identity?_append {s s' : FileStore} {node : Nat} {bytes : Bytes}
    (h : s.append node bytes = .ok s') : s'.identity? = s.identity? := by
  unfold append at h
  split at h
  · cases h
    rfl
  · split at h
    · cases h
      rfl
    · cases h
  · cases h

/-- Appending makes no difference to which files there are, and where. -/
theorem shape_append {s s' : FileStore} {node : Nat} {bytes : Bytes}
    (h : s.append node bytes = .ok s') : s'.shape = s.shape := by
  unfold append at h
  split at h
  · rename_i contents hc
    cases h
    have hnodes : (s.nodes.setIfInBounds node (.regular (contents ++ bytes))).map Node.shape =
        s.nodes.map Node.shape := by
      refine Array.ext_getElem? fun n => ?_
      rw [Array.getElem?_map, Array.getElem?_map, Array.getElem?_setIfInBounds]
      by_cases hn : node = n
      · subst hn
        have hlt : node < s.nodes.size := (Array.getElem?_eq_some_iff.mp hc).1
        rw [if_pos rfl, if_pos hlt, hc]
        rfl
      · rw [if_neg hn]
    unfold shape
    rw [hnodes]
  · split at h
    · cases h
      rfl
    · cases h
  · cases h

/-- Appending adds the bytes to the end of one file and leaves all others alone. -/
theorem bytesAt_append {s s' : FileStore} {node : Nat} {bytes : Bytes}
    (h : s.append node bytes = .ok s') (n : Nat) :
    s'.bytesAt n = if n = node then s.bytesAt n ++ bytes else s.bytesAt n := by
  unfold append at h
  split at h
  · rename_i contents hc
    cases h
    have hlt : node < s.nodes.size := (Array.getElem?_eq_some_iff.mp hc).1
    simp only [bytesAt_eq, Array.getElem?_setIfInBounds]
    by_cases hn : n = node
    · subst hn
      simp only [hlt, if_true, hc]
    · have hn' : node ≠ n := fun e => hn e.symm
      simp [hn, hn']
  · split at h
    · rename_i he
      cases h
      simp [List.isEmpty_iff.mp he]
    · cases h
  · cases h

/-! ## Opening -/

/-- What is opened when a path leads to a place: an empty file is added to the store if nothing is
there yet. -/
theorem opened_cases {s s' : FileStore} {place : Place} {node : Nat}
    (h : (match place with
      | .vacant directory name =>
        .ok (s.nodes.size, s.create directory name (.regular []))
      | .node number => if s.isDirectory number then .error .isDirectory else .ok (number, s)
      : Except SystemError (Nat × FileStore)) = .ok (node, s')) :
    s' = s ∨ ∃ directory name, s' = s.create directory name (.regular []) := by
  cases place with
  | vacant directory name =>
    cases h
    exact .inr ⟨directory, name, rfl⟩
  | node number =>
    by_cases hd : s.isDirectory number
    · simp [hd] at h
    · simp only [hd, Bool.false_eq_true, if_false, Except.ok.injEq, Prod.mk.injEq] at h
      exact .inl h.2.symm

/-- Opening a file for appending leaves the store alone or adds an empty file to it. -/
theorem openAppend_cases {s s' : FileStore} {path : String} {node : Nat}
    (h : s.openAppend path = .ok (node, s')) :
    s' = s ∨ ∃ directory name, s' = s.create directory name (.regular []) := by
  unfold openAppend at h
  simp only [bind, Except.bind] at h
  split at h
  · cases h
  · split at h
    all_goals
      split at h
      · cases h
      · exact opened_cases h

/-- Opening a file changes the identity of no node. -/
theorem identity?_openAppend {s s' : FileStore} {path : String} {node : Nat}
    (h : s.openAppend path = .ok (node, s')) : s'.identity? = s.identity? := by
  rcases openAppend_cases h with rfl | ⟨directory, name, rfl⟩ <;> rfl

/-- An empty file that is added to a store shows no bytes where none were. -/
theorem bytesAt_create (s : FileStore) (directory : Nat) (name : String) (n : Nat) :
    (s.create directory name (.regular [])).bytesAt n = s.bytesAt n := by
  simp only [bytesAt_eq, create, Array.getElem?_push, Array.size_modify]
  by_cases hn : n = s.nodes.size
  · subst hn
    simp
  · simp only [hn, if_false, Array.getElem?_modify]
    by_cases hd : directory = n
    · subst hd
      cases hs : s.nodes[directory]? with
      | none => simp
      | some node => cases node <;> simp
    · simp [hd]

/-- Opening a file for appending never touches what is in a file. -/
theorem bytesAt_openAppend {s s' : FileStore} {path : String} {node : Nat}
    (h : s.openAppend path = .ok (node, s')) (n : Nat) : s'.bytesAt n = s.bytesAt n := by
  rcases openAppend_cases h with rfl | ⟨directory, name, rfl⟩
  · rfl
  · exact bytesAt_create s directory name n

end FileStore

namespace FileWriter

/-- What an operation on a writer does to its file and the bytes it holds, if `bytes` is what it was
given and took: the writer stays with its file, and the file and the held bytes are together what
they were, with `bytes` behind. -/
structure Adds (bytes : Bytes) (w w' : FileWriter) (s s' : FileStore) : Prop where
  node : w'.node = w.node
  identity : s'.identity? = s.identity?
  shape : s'.shape = s.shape
  others : ∀ n, n ≠ w.node → s'.bytesAt n = s.bytesAt n
  grows : s.bytesAt w.node <+: s'.bytesAt w.node
  due : s'.bytesAt w.node ++ w'.held = s.bytesAt w.node ++ w.held ++ bytes

namespace Adds

theorem refl (w : FileWriter) (s : FileStore) : Adds [] w w s s where
  node := rfl
  identity := rfl
  shape := rfl
  others _ _ := rfl
  grows := List.prefix_rfl
  due := by simp

theorem trans {a b : Bytes} {w w' w'' : FileWriter} {s s' s'' : FileStore}
    (h : Adds a w w' s s') (h' : Adds b w' w'' s' s'') : Adds (a ++ b) w w'' s s'' where
  node := h'.node.trans h.node
  identity := h'.identity.trans h.identity
  shape := h'.shape.trans h.shape
  others n hn := (h'.others n (by rw [h.node]; exact hn)).trans (h.others n hn)
  grows := by
    have hg := h'.grows
    rw [h.node] at hg
    exact h.grows.trans hg
  due := by
    have hd := h'.due
    rw [h.node] at hd
    rw [hd, h.due, List.append_assoc]

theorem hold (w : FileWriter) (bytes : Bytes) (s : FileStore) :
    Adds bytes w { w with held := w.held ++ bytes } s s where
  node := rfl
  identity := rfl
  shape := rfl
  others _ _ := rfl
  grows := List.prefix_rfl
  due := by simp

/-- Handing bytes on to the file, all that was held being among them. -/
theorem append {w : FileWriter} {s s' : FileStore} {bytes held : Bytes}
    (h : s.append w.node held = .ok s') (hheld : w.held ++ bytes = held) :
    Adds bytes w { w with held := [] } s s' where
  node := rfl
  identity := FileStore.identity?_append h
  shape := FileStore.shape_append h
  others n hn := by rw [FileStore.bytesAt_append h, if_neg hn]
  grows := by
    rw [FileStore.bytesAt_append h, if_pos rfl]
    exact List.prefix_append _ _
  due := by rw [FileStore.bytesAt_append h, if_pos rfl, ← hheld]; simp

end Adds

/-- Flushing loses nothing, whether or not the file takes the bytes. -/
theorem flush_adds (w : FileWriter) (s : FileStore) :
    Adds [] w (w.flush s).2.1 s (w.flush s).2.2 := by
  unfold flush
  split
  · exact .refl w s
  · split
    · rename_i s' h
      exact .append h (by simp)
    · exact .refl w s

theorem held_flush {w : FileWriter} {s : FileStore} (h : (w.flush s).1 = .ok ()) :
    (w.flush s).2.1.held = [] := by
  unfold flush at h ⊢
  by_cases he : w.held.isEmpty
  · simp only [he, if_true]
    exact List.isEmpty_iff.mp he
  · simp only [he, Bool.false_eq_true, if_false] at h ⊢
    split at h
    · rfl
    · cases h

/-- Taking bytes when there is room for them, or when they fill the whole buffer and nothing is
held. -/
def put (w : FileWriter) (bytes : Bytes) (s : FileStore) :
    Except SystemError Unit × FileWriter × FileStore :=
  if capacity ≤ bytes.length then
    match s.append w.node bytes with
    | .ok s => (.ok (), w, s)
    | .error cause => (.error cause, w, s)
  else (.ok (), { w with held := w.held ++ bytes }, s)

/-- Bytes that may fill the buffer are put once what does not fit beside them has been flushed. -/
theorem writeLarge_eq (w : FileWriter) (bytes : Bytes) (s : FileStore) :
    w.writeLarge bytes s =
      if capacity < w.held.length + bytes.length then
        match (w.flush s).1 with
        | .error cause => (.error cause, (w.flush s).2)
        | .ok () => (w.flush s).2.1.put bytes (w.flush s).2.2
      else w.put bytes s := by
  unfold writeLarge
  by_cases hfit : capacity < w.held.length + bytes.length
  · simp only [hfit, if_true]
    rfl
  · simp only [hfit, if_false]
    rfl

theorem put_adds {w : FileWriter} {bytes : Bytes} {s : FileStore}
    (hheld : capacity ≤ bytes.length → w.held = []) :
    ∃ taken, Adds taken w (w.put bytes s).2.1 s (w.put bytes s).2.2 ∧
      ((w.put bytes s).1 = .ok () → taken = bytes) := by
  unfold put
  by_cases hc : capacity ≤ bytes.length
  · simp only [hc, if_true]
    cases ha : s.append w.node bytes with
    | error cause => exact ⟨[], .refl w s, fun hok => by cases hok⟩
    | ok s' =>
      have h : Adds bytes w { w with held := [] } s s' := .append ha (by simp [hheld hc])
      have hw : { w with held := [] } = w := by rw [← hheld hc]
      rw [hw] at h
      exact ⟨bytes, h, fun _ => rfl⟩
  · simp only [hc, if_false]
    exact ⟨bytes, .hold w bytes s, fun _ => rfl⟩

/-- Writing many bytes: all of them are taken, or none if the file refuses. -/
theorem writeLarge_adds (w : FileWriter) (bytes : Bytes) (s : FileStore) :
    ∃ taken, Adds taken w (w.writeLarge bytes s).2.1 s (w.writeLarge bytes s).2.2 ∧
      ((w.writeLarge bytes s).1 = .ok () → taken = bytes) := by
  rw [writeLarge_eq]
  by_cases hfit : capacity < w.held.length + bytes.length
  · simp only [hfit, if_true]
    cases hf : (w.flush s).1 with
    | error cause => exact ⟨[], flush_adds w s, fun hok => by cases hok⟩
    | ok _ =>
      have hput : capacity ≤ bytes.length → (w.flush s).2.1.held = [] := fun _ => held_flush hf
      obtain ⟨taken, ht, htaken⟩ := put_adds (s := (w.flush s).2.2) hput
      exact ⟨taken, (flush_adds w s).trans ht, htaken⟩
  · simp only [hfit, if_false]
    -- Bytes that fit beside what is held and still fill the buffer leave no room for anything held.
    refine put_adds fun hc => ?_
    have hlen : w.held.length = 0 := by omega
    exact List.length_eq_zero_iff.mp hlen

/-- Writing: all bytes are taken, or none if the file refuses what does not fit. -/
theorem write_adds (w : FileWriter) (bytes : Bytes) (s : FileStore) :
    ∃ taken, Adds taken w (w.write bytes s).2.1 s (w.write bytes s).2.2 ∧
      ((w.write bytes s).1 = .ok () → taken = bytes) := by
  unfold write
  split
  · exact ⟨bytes, .hold w bytes s, fun _ => rfl⟩
  · exact writeLarge_adds w bytes s

end FileWriter

end MacroTrace
