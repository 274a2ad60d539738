import MacroTrace.Proofs.Destination
/-!
# What can be opened

What is in the files makes no difference to where debug output can be redirected. The file that is
opened depends on the store without these contents (`FileStore.openAppend_shape`). Whether anything
can be opened at all depends on even less, the directories and links that a path can lead through:
opening may make a new file, but that neither opens nor closes a way to any other
(`FileStore.SamePassages`).
-/

namespace MacroTrace

namespace FileStore

/-! ## Stores of the same shape -/

theorem getElem?_shape (s : FileStore) (n : Nat) :
    s.shape.nodes[n]? = (s.nodes[n]?).map Node.shape := by
  simp [shape]

theorem isDirectory_shape (s : FileStore) (n : Nat) :
    s.shape.isDirectory n = s.isDirectory n := by
  unfold isDirectory
  rw [getElem?_shape]
  cases s.nodes[n]? with
  | none => rfl
  | some node => cases node <;> rfl

theorem unmakeable_shape (s : FileStore) (above : Except SystemError Place) :
    s.shape.unmakeable above = s.unmakeable above := by
  unfold unmakeable
  simp only [isDirectory_shape]

/-- The contents of files make no difference to where a path leads. -/
theorem walk_shape (s : FileStore) (makes : Bool) (links here : Nat) (names : List String) :
    s.shape.walk makes links here names = s.walk makes links here names := by
  match names with
  | [] => simp only [walk]
  | name :: rest =>
    rw [walk, walk, getElem?_shape]
    cases s.nodes[here]? with
    | none => rfl
    | some node =>
      cases node with
      | directory parent entries =>
        simp only [Option.map_some, Node.shape]
        rw [walk_shape s makes links here rest, walk_shape s makes links parent rest]
        cases entries.find? (·.1 == name) with
        | none => rfl
        | some entry =>
          obtain ⟨_, next⟩ := entry
          simp only [getElem?_shape]
          cases hn : s.nodes[next]? with
          | none => simp only [Option.map_none, walk_shape s makes links next rest]
          | some node =>
            cases node with
            | link target =>
              cases links with
              | zero => rfl
              | succ links =>
                simp only [Option.map_some, Node.shape, unmakeable_shape]
                rw [walk_shape s _ links, walk_shape s _ links]
                rfl
            | _ => simp only [Option.map_some, Node.shape, walk_shape s makes links next rest]
      | _ => rfl
termination_by (links, names.length)

theorem create_shape (s : FileStore) (directory : Nat) (name : String) :
    s.shape.create directory name (.regular []) =
      (s.create directory name (.regular [])).shape := by
  have hnodes : (s.shape.create directory name (.regular [])).nodes =
      (s.create directory name (.regular [])).nodes.map Node.shape := by
    refine Array.ext_getElem? fun n => ?_
    simp only [create, Array.getElem?_map, Array.getElem?_push, Array.size_modify,
      Array.getElem?_modify, getElem?_shape]
    have hsize : s.shape.nodes.size = s.nodes.size := by simp [shape]
    rw [hsize]
    by_cases hn : n = s.nodes.size
    · simp [hn, Node.shape]
    · by_cases hd : directory = n
      · subst hd
        cases s.nodes[directory]? with
        | none => simp [hn]
        | some node => cases node <;> simp [hn, Node.shape]
      · simp [hn, hd]
  unfold shape
  rw [← hnodes]
  rfl

/-- Where a path leads that is opened for appending. -/
def placeToAppend (s : FileStore) (path : String) : Except SystemError Place := do
  let r ← routeOf path
  if r.closed then s.unmakeable (s.walk false maxLinks (s.start r) r.names.dropLast)
  else s.walk true maxLinks (s.start r) r.names

/-- Opens the file at a place, or makes one there. -/
def openPlace (s : FileStore) : Place → Except SystemError (Nat × FileStore)
  | .vacant directory name => .ok (s.nodes.size, s.create directory name (.regular []))
  | .node number => if s.isDirectory number then .error .isDirectory else .ok (number, s)

theorem openAppend_eq (s : FileStore) (path : String) :
    s.openAppend path = s.placeToAppend path >>= s.openPlace := by
  unfold openAppend placeToAppend
  cases routeOf path with
  | error cause => rfl
  | ok r =>
    show (if r.closed then _ else _ : Except SystemError (Nat × FileStore)) =
      (if r.closed then _ else _ : Except SystemError Place) >>= s.openPlace
    cases r.closed <;> rfl

theorem placeToAppend_shape (s : FileStore) (path : String) :
    s.shape.placeToAppend path = s.placeToAppend path := by
  unfold placeToAppend
  simp only [walk_shape, unmakeable_shape]
  rfl

theorem openPlace_shape (s : FileStore) (place : Place) :
    s.shape.openPlace place =
      (s.openPlace place).map fun opened => (opened.1, opened.2.shape) := by
  cases place with
  | vacant directory name =>
    have hsize : s.shape.nodes.size = s.nodes.size := by simp [shape]
    simp only [openPlace, Except.map, create_shape, hsize]
  | node number =>
    simp only [openPlace, isDirectory_shape]
    cases s.isDirectory number <;> rfl

/-- What is in files makes no difference to what is opened. -/
theorem openAppend_shape (s : FileStore) (path : String) :
    s.shape.openAppend path = (s.openAppend path).map fun opened => (opened.1, opened.2.shape) := by
  rw [openAppend_eq, openAppend_eq, placeToAppend_shape]
  cases s.placeToAppend path with
  | error cause => rfl
  | ok place => exact s.openPlace_shape place

/-! ## Passages -/

/-- Something that a path can lead through: a directory, with the directory above it and those of
its names that a path can lead through, or a link. -/
inductive Passage
  | directory (parent : Nat) (entry : String → Option Nat)
  | link (target : String)

def isPassable (s : FileStore) (n : Nat) : Bool :=
  match s.nodes[n]? with
  | some (.directory _ _) | some (.link _) => true
  | _ => false

/-- What a directory holds under a name, if a path can lead through it. -/
def onward? (s : FileStore) (entries : List (String × Nat)) (name : String) : Option Nat :=
  ((entries.find? (·.1 == name)).map (·.2)).filter s.isPassable

def passage? (s : FileStore) (n : Nat) : Option Passage :=
  match s.nodes[n]? with
  | some (.directory parent entries) => some (.directory parent (s.onward? entries))
  | some (.link target) => some (.link target)
  | _ => none

/-- Two stores with the same directories and links in the same places. -/
structure SamePassages (s t : FileStore) : Prop where
  root : s.root = t.root
  home : s.home = t.home
  passage? : ∀ n, s.passage? n = t.passage? n

theorem isPassable_eq (s : FileStore) (n : Nat) : s.isPassable n = (s.passage? n).isSome := by
  unfold isPassable passage?
  cases s.nodes[n]? with
  | none => rfl
  | some node => cases node <;> rfl

theorem isDirectory_eq (s : FileStore) (n : Nat) :
    s.isDirectory n = match s.passage? n with
      | some (.directory _ _) => true
      | _ => false := by
  unfold isDirectory passage?
  cases s.nodes[n]? with
  | none => rfl
  | some node => cases node <;> rfl

/-- What can be told from the passages about where a path leads: nowhere (`none`), to something that
a path can lead through, or to a file or to where one can be made (`some none`). -/
def reach (s : FileStore) : Except SystemError Place → Option (Option Nat)
  | .error _ => none
  | .ok (.vacant _ _) => some none
  | .ok (.node n) => some (if s.isPassable n then some n else none)

theorem reach_unmakeable (s : FileStore) (above : Except SystemError Place) :
    s.reach (s.unmakeable above) = none := by
  unfold unmakeable
  split <;> rfl

theorem reach_walk_nil (s : FileStore) (makes : Bool) (links here : Nat) :
    s.reach (s.walk makes links here []) =
      some (if s.isPassable here then some here else none) := by
  rw [walk]
  rfl

/-- A path that goes on from a file leads nowhere. -/
theorem reach_walk_impassable {s : FileStore} {n : Nat} (h : s.isPassable n = false) (makes : Bool)
    (links : Nat) (names : List String) :
    s.reach (s.walk makes links n names) = if names.isEmpty then some none else none := by
  cases names with
  | nil => simp [reach_walk_nil, h]
  | cons name rest =>
    rw [walk]
    unfold isPassable at h
    split
    · rename_i hn
      rw [hn] at h
      cases h
    · rfl

/-- One name of a path, in terms of the passages. -/
theorem reach_walk_cons (s : FileStore) (makes : Bool) (links here : Nat) (name : String)
    (rest : List String) :
    s.reach (s.walk makes links here (name :: rest)) =
      match s.passage? here with
      | some (.directory parent entry) =>
        if name = "." then s.reach (s.walk makes links here rest)
        else if name = ".." then s.reach (s.walk makes links parent rest)
        else if maxNameBytes < name.utf8ByteSize then none
        else match entry name with
          | none => if rest.isEmpty then some none else none
          | some node =>
            match s.passage? node with
            | some (.link target) =>
              match links with
              | 0 => none
              | links + 1 =>
                let r := Path.route target
                if makes && rest.isEmpty && r.closed then none
                else s.reach (s.walk makes links (if r.absolute then s.root else here)
                  (r.names ++ (if r.closed then ["."] else []) ++ rest))
            | _ => s.reach (s.walk makes links node rest)
      | _ => none := by
  rw [walk]
  cases hh : s.nodes[here]? with
  | none => simp [passage?, hh, reach]
  | some node =>
    cases node with
    | directory parent entries =>
      have hhere : s.passage? here = some (.directory parent (s.onward? entries)) := by
        simp [passage?, hh]
      simp only [hhere]
      by_cases hdot : name = "."
      · simp only [hdot, if_true]
      by_cases hup : name = ".."
      · simp only [hup, if_true]
        rfl
      by_cases hlong : maxNameBytes < name.utf8ByteSize
      · simp only [hdot, hup, hlong, if_true, if_false]
        rfl
      simp only [hdot, hup, hlong, if_false]
      cases hfound : entries.find? (·.1 == name) with
      | none =>
        have hentry : s.onward? entries name = none := by simp [onward?, hfound]
        rw [hentry]
        cases rest <;> rfl
      | some found =>
        obtain ⟨_, next⟩ := found
        have hentry : s.onward? entries name = if s.isPassable next then some next else none := by
          simp [onward?, hfound, Option.filter_some]
        simp only [hentry]
        cases hn : s.nodes[next]? with
        | none =>
          have hfile : s.isPassable next = false := by simp [isPassable, hn]
          simp only [hfile, reach_walk_impassable hfile]
          rfl
        | some node =>
          cases node with
          | directory _ _ =>
            have hpass : s.isPassable next = true := by simp [isPassable, hn]
            simp only [hpass, if_true, passage?, hn]
          | link target =>
            have hpass : s.isPassable next = true := by simp [isPassable, hn]
            simp only [hpass, if_true, passage?, hn]
            cases links with
            | zero => rfl
            | succ links =>
              simp only
              split
              · exact s.reach_unmakeable _
              · rfl
          | _ =>
            have hfile : s.isPassable next = false := by simp [isPassable, hn]
            simp only [hfile, reach_walk_impassable hfile]
            rfl
    | _ => simp [passage?, hh, reach]

/-- Where a path leads can be told from the passages, as far as it can be told from `reach`. -/
theorem SamePassages.reach_walk {s t : FileStore} (h : s.SamePassages t) (makes : Bool)
    (links here : Nat) (names : List String) :
    s.reach (s.walk makes links here names) = t.reach (t.walk makes links here names) := by
  match names with
  | [] => rw [reach_walk_nil, reach_walk_nil, isPassable_eq, isPassable_eq, h.passage?]
  | name :: rest =>
    rw [reach_walk_cons, reach_walk_cons, h.passage?, h.root]
    cases t.passage? here with
    | none => rfl
    | some passage =>
      cases passage with
      | link target => rfl
      | directory parent entry =>
        simp only [h.passage?]
        rw [h.reach_walk makes links here rest, h.reach_walk makes links parent rest]
        cases entry name with
        | none => rfl
        | some node =>
          simp only
          cases t.passage? node with
          | none => simp only [h.reach_walk makes links node rest]
          | some passage =>
            cases passage with
            | directory _ _ => simp only [h.reach_walk makes links node rest]
            | link target =>
              cases links with
              | zero => rfl
              | succ links => simp only [h.reach_walk _ links]
termination_by (links, names.length)

theorem isOk_openPlace (s : FileStore) (found : Except SystemError Place) :
    (found >>= s.openPlace).isOk = match s.reach found with
      | none => false
      | some none => true
      | some (some n) => !s.isDirectory n := by
  cases found with
  | error cause => rfl
  | ok place =>
    show (s.openPlace place).isOk = _
    cases place with
    | vacant directory name => rfl
    | node n =>
      have hdirectory : s.isPassable n = false → s.isDirectory n = false := by
        intro hfile
        rw [isPassable_eq, Option.isSome_eq_false_iff, Option.isNone_iff_eq_none] at hfile
        rw [isDirectory_eq, hfile]
      cases hp : s.isPassable n with
      | true =>
        cases hd : s.isDirectory n <;>
          simp [openPlace, reach, hp, hd, Except.isOk, Except.toBool]
      | false => simp [openPlace, reach, hp, hdirectory hp, Except.isOk, Except.toBool]

/-- Whether a path can be opened depends on the passages alone. -/
theorem SamePassages.isOk_openAppend {s t : FileStore} (h : s.SamePassages t) (path : String) :
    (s.openAppend path).isOk = (t.openAppend path).isOk := by
  rw [openAppend_eq, openAppend_eq]
  unfold placeToAppend
  cases routeOf path with
  | error cause => rfl
  | ok r =>
    show ((if r.closed then _ else _ : Except SystemError Place) >>= s.openPlace).isOk =
      ((if r.closed then _ else _ : Except SystemError Place) >>= t.openPlace).isOk
    cases r.closed with
    | true =>
      simp only [if_true]
      rw [isOk_openPlace, isOk_openPlace, reach_unmakeable, reach_unmakeable]
    | false =>
      have hstart : s.start r = t.start r := by
        unfold start
        rw [h.root, h.home]
      simp only [Bool.false_eq_true, if_false]
      rw [isOk_openPlace, isOk_openPlace, h.reach_walk, hstart]
      simp only [isDirectory_eq, h.passage?]

/-! ### Stores with the same passages -/

theorem SamePassages.refl (s : FileStore) : s.SamePassages s := ⟨rfl, rfl, fun _ => rfl⟩

theorem SamePassages.symm {s t : FileStore} (h : s.SamePassages t) : t.SamePassages s :=
  ⟨h.root.symm, h.home.symm, fun n => (h.passage? n).symm⟩

theorem SamePassages.trans {s t u : FileStore} (h : s.SamePassages t) (h' : t.SamePassages u) :
    s.SamePassages u :=
  ⟨h.root.trans h'.root, h.home.trans h'.home, fun n => (h.passage? n).trans (h'.passage? n)⟩

theorem isPassable_shape (s : FileStore) (n : Nat) : s.shape.isPassable n = s.isPassable n := by
  unfold isPassable
  rw [getElem?_shape]
  cases s.nodes[n]? with
  | none => rfl
  | some node => cases node <;> rfl

theorem samePassages_shape (s : FileStore) : s.shape.SamePassages s := by
  refine ⟨rfl, rfl, fun n => ?_⟩
  have hentry : s.shape.onward? = s.onward? := by
    funext entries name
    unfold onward?
    rw [funext s.isPassable_shape]
  unfold passage?
  rw [getElem?_shape, hentry]
  cases s.nodes[n]? with
  | none => rfl
  | some node => cases node <;> rfl

/-- What is in files opens no passage and closes none. -/
theorem samePassages_of_shape {s t : FileStore} (h : s.shape = t.shape) : s.SamePassages t := by
  have hs := s.samePassages_shape.symm
  rw [h] at hs
  exact hs.trans t.samePassages_shape

theorem isPassable_create (s : FileStore) (directory : Nat) (name : String) (n : Nat) :
    (s.create directory name (.regular [])).isPassable n = s.isPassable n := by
  unfold isPassable create
  simp only [Array.getElem?_push, Array.size_modify, Array.getElem?_modify]
  by_cases hn : n = s.nodes.size
  · subst hn
    simp
  · by_cases hd : directory = n
    · subst hd
      cases s.nodes[directory]? with
      | none => simp [hn]
      | some node => cases node <;> simp [hn]
    · simp [hn, hd]

/-- A new file is no passage. -/
theorem samePassages_create (s : FileStore) (directory : Nat) (name : String) :
    (s.create directory name (.regular [])).SamePassages s := by
  refine ⟨rfl, rfl, fun n => ?_⟩
  have hnew : s.isPassable s.nodes.size = false := by simp [isPassable]
  have hentry : (s.create directory name (.regular [])).onward? = s.onward? := by
    funext entries name'
    unfold onward?
    rw [funext (s.isPassable_create directory name)]
  have hadded : ∀ entries : List (String × Nat),
      s.onward? (entries ++ [(name, s.nodes.size)]) = s.onward? entries := by
    intro entries
    funext name'
    unfold onward?
    rw [List.find?_append]
    cases entries.find? (·.1 == name') with
    | some found => rfl
    | none =>
      by_cases hname : name == name'
      · simp [hname, hnew, Option.filter_some]
      · simp [hname]
  unfold passage?
  rw [hentry]
  simp only [create, Array.getElem?_push, Array.size_modify, Array.getElem?_modify]
  by_cases hn : n = s.nodes.size
  · subst hn
    simp
  · by_cases hd : directory = n
    · subst hd
      cases s.nodes[directory]? with
      | none => simp [hn]
      | some node => cases node <;> simp [hn, hadded]
    · simp [hn, hd]

theorem samePassages_openAppend {s s' : FileStore} {path : String} {node : Nat}
    (h : s.openAppend path = .ok (node, s')) : s'.SamePassages s := by
  rcases openAppend_cases h with rfl | ⟨directory, name, rfl⟩
  · exact .refl s'
  · exact s.samePassages_create directory name

end FileStore

/-! ## Redirecting -/

theorem Destination.shape_close (d : Destination) (s : FileStore) :
    (d.close s).shape = s.shape := by
  cases d with
  | file writer => exact (writer.flush_adds s).shape
  | _ => rfl

namespace Outputs

variable {o o' : Outputs} {target : DebugTarget}

theorem opened_samePassages (o : Outputs) (target : DebugTarget) :
    (o.opened target).SamePassages o.store := by
  cases target with
  | file path =>
    simp only [opened]
    cases h : o.store.openAppend path with
    | error cause => exact .refl _
    | ok opening => exact FileStore.samePassages_openAppend h
  | _ => exact .refl _

theorem store_redirect (h : o.redirect target = .ok o') :
    o'.store.shape = (o.opened target).shape := by
  obtain ⟨next, hheld, -, rfl⟩ := redirect_eq_ok h
  rw [store_adopt hheld]
  exact Destination.shape_close _ _

/-- A redirection opens no passage and closes none. -/
theorem redirect_samePassages (h : o.redirect target = .ok o') :
    o'.store.SamePassages o.store :=
  (FileStore.samePassages_of_shape (store_redirect h)).trans (o.opened_samePassages target)

theorem isOk_redirect (o : Outputs) (target : DebugTarget) :
    (o.redirect target).isOk = match target with
      | .file path => (o.store.openAppend path).isOk
      | _ => true := by
  cases target with
  | file path =>
    unfold redirect
    simp only
    cases o.store.openAppend path <;> rfl
  | _ => rfl

/-- Whether debug output can be redirected depends on the passages alone. -/
theorem isOk_redirect_congr (h : o.store.SamePassages o'.store) (target : DebugTarget) :
    (o.redirect target).isOk = (o'.redirect target).isOk := by
  rw [isOk_redirect, isOk_redirect]
  cases target with
  | file path => exact h.isOk_openAppend path
  | _ => rfl

/-- Debug output leads to the same place, now and after whatever is done with it later. -/
structure LeadsAlike (o o' : Outputs) : Prop where
  outlet : o'.active.outlet = o.active.outlet
  outIdentity : o'.outIdentity = o.outIdentity
  errIdentity : o'.errIdentity = o.errIdentity
  shape : o'.store.shape = o.store.shape

end Outputs

theorem DebugTarget.destination_shape (outIdentity errIdentity : Option Identity)
    (store : FileStore) (target : DebugTarget) :
    target.destination outIdentity errIdentity store.shape =
      target.destination outIdentity errIdentity store := by
  cases target with
  | file path =>
    simp only [destination, FileStore.openAppend_shape]
    cases h : store.openAppend path <;> rfl
  | _ => rfl

namespace Outputs

variable {o o' o₁ o₁' : Outputs} {target : DebugTarget}

theorem opened_shape (o : Outputs) (target : DebugTarget) :
    (o.opened target).shape = opened { o with store := o.store.shape } target := by
  cases target with
  | file path =>
    simp only [opened, FileStore.openAppend_shape]
    cases o.store.openAppend path <;> rfl
  | _ => rfl

theorem opened_congr (h : o'.store.shape = o.store.shape) (target : DebugTarget) :
    (o'.opened target).shape = (o.opened target).shape := by
  rw [opened_shape, opened_shape]
  unfold opened
  simp only [h]

theorem identities_redirect (h : o.redirect target = .ok o') :
    o'.outIdentity = o.outIdentity ∧ o'.errIdentity = o.errIdentity := by
  obtain ⟨next, hheld, -, rfl⟩ := redirect_eq_ok h
  rw [adopt_eq hheld]
  exact ⟨rfl, rfl⟩

namespace LeadsAlike

theorem refl (o : Outputs) : LeadsAlike o o := ⟨rfl, rfl, rfl, rfl⟩

theorem trans {o'' : Outputs} (h : LeadsAlike o o') (h' : LeadsAlike o' o'') : LeadsAlike o o'' :=
  ⟨h'.outlet.trans h.outlet, h'.outIdentity.trans h.outIdentity,
    h'.errIdentity.trans h.errIdentity, h'.shape.trans h.shape⟩

theorem symm (h : LeadsAlike o o') : LeadsAlike o' o :=
  ⟨h.outlet.symm, h.outIdentity.symm, h.errIdentity.symm, h.shape.symm⟩

theorem of_stays (h : Stays o o') : LeadsAlike o o' :=
  ⟨h.outlet, h.outIdentity, h.errIdentity, h.shape⟩

theorem destination (h : LeadsAlike o o') (target : DebugTarget) :
    (o'.redirect target).map (·.active) = (o.redirect target).map (·.active) := by
  rw [redirect_destination, redirect_destination, h.outIdentity, h.errIdentity,
    ← target.destination_shape _ _ o'.store, h.shape, target.destination_shape]

/-- A redirection leads to the same place from both, if it succeeds, and fails for the same reason
from both. -/
theorem redirect (h : LeadsAlike o o') (target : DebugTarget) :
    (∃ o₁ o₁', o.redirect target = .ok o₁ ∧ o'.redirect target = .ok o₁' ∧ LeadsAlike o₁ o₁') ∨
      ∃ failure, o.redirect target = .error failure ∧ o'.redirect target = .error failure := by
  have hsame := h.destination target
  cases hr : o.redirect target with
  | error failure =>
    rw [hr] at hsame
    cases hr' : o'.redirect target with
    | error failure' =>
      rw [hr'] at hsame
      cases hsame
      exact .inr ⟨failure, rfl, rfl⟩
    | ok o₁' =>
      rw [hr'] at hsame
      cases hsame
  | ok o₁ =>
    rw [hr] at hsame
    cases hr' : o'.redirect target with
    | error failure' =>
      rw [hr'] at hsame
      cases hsame
    | ok o₁' =>
      rw [hr'] at hsame
      have hactive : o₁'.active = o₁.active := Except.ok.inj hsame
      obtain ⟨hout, herr⟩ := identities_redirect hr
      obtain ⟨hout', herr'⟩ := identities_redirect hr'
      refine .inl ⟨o₁, o₁', rfl, rfl, congrArg _ hactive, ?_, ?_, ?_⟩
      · rw [hout, hout', h.outIdentity]
      · rw [herr, herr', h.errIdentity]
      · rw [store_redirect hr, store_redirect hr', opened_congr h.shape]

end LeadsAlike

end Outputs

end MacroTrace
