import MacroTrace.Stream.Port
import MacroTrace.Proofs.Operation
/-!
# What goes through the standard streams, and what shows

An operation may fail half way, and a port may refuse a request without anyone noticing, as a report
does that is written as far as it goes. So what an operation brings to the log is said in one form
for all cases, `Ports.Follows`: the ports only take in more requests, and unless one of them was
refused, exactly the given events are added to the log. The form is closed under doing one thing
after the other, whether or not the first comes to its end.

More shows than goes through the ports, because the journal is shown in between. What shows only
grows (`Ports.Grows`): requests and entries of the journal show behind all that has shown before.
-/

namespace MacroTrace

namespace Ports

/-- What goes through when a port carries requests out. A write of nothing is never put to it. -/
def carried (p : Port) (colours : Bool) (requests : List Request) : List Event :=
  (requests.filter (!·.isVoid)).map (effect p colours)

theorem carried_append (p : Port) (colours : Bool) (a b : List Request) :
    carried p colours (a ++ b) = carried p colours a ++ carried p colours b := by
  simp [carried]

/-- No request was ever refused. -/
def Unrefused (s : Ports) : Prop := ∀ p, ∀ answered ∈ (s.state p).past, answered.2 = .done

theorem unrefused_of_all {s : Ports}
    (h : s.out.past.all (·.2 = .done) && s.err.past.all (·.2 = .done)) : s.Unrefused := by
  obtain ⟨hout, herr⟩ := Bool.and_eq_true_iff.mp h
  intro p answered ha
  cases p with
  | out => exact of_decide_eq_true (List.all_eq_true.mp hout answered ha)
  | err => exact of_decide_eq_true (List.all_eq_true.mp herr answered ha)

/-- Whatever the ports are asked for is carried out, and always has been. -/
structure Willing (s : Ports) : Prop where
  behaviour : ∀ p, (s.state p).behaviour = .willing
  unrefused : s.Unrefused

/-! ## What shows -/

/-- Every entry of the journal was added at a time that is over. -/
def Dated (s : Ports) : Prop := ∀ e ∈ s.journal.toList, e.position ≤ s.log.size

/-- What has shown stays as it is, with what has come later behind it. -/
def Grows (s s' : Ports) : Prop := s.Dated → s'.Dated ∧ s.screen <+: s'.screen

theorem Grows.refl (s : Ports) : Grows s s := fun h => ⟨h, List.prefix_rfl⟩

theorem Grows.trans {s s' s'' : Ports} (h : Grows s s') (h' : Grows s' s'') : Grows s s'' := by
  intro hdated
  obtain ⟨hdated', hprefix⟩ := h hdated
  obtain ⟨hdated'', hprefix'⟩ := h' hdated'
  exact ⟨hdated'', hprefix.trans hprefix'⟩

/-- What has shown ends in the entries that were added last. -/
theorem screen_eq (s : Ports) :
    s.screen = (List.range s.log.size).flatMap (fun n => s.journalAt n ++ s.log[n]?.toList) ++
      s.journalAt s.log.size := by
  simp [screen, List.range_succ]

/-- What goes through shows behind all that has shown before. -/
theorem screen_push {s : Ports} (h : s.Dated) (event : Event) :
    { s with log := s.log.push event }.screen = s.screen ++ [event] := by
  have hlater : { s with log := s.log.push event }.journalAt (s.log.size + 1) = [] := by
    have hnone : s.journal.toList.filter (·.position = s.log.size + 1) = [] := by
      refine List.filter_eq_nil_iff.mpr fun e he => ?_
      have hposition := h e he
      simp only [decide_eq_true_eq]
      omega
    simp only [journalAt, hnone, List.map_nil]
  have hearlier : (List.range s.log.size).flatMap (fun n =>
        { s with log := s.log.push event }.journalAt n ++ (s.log.push event)[n]?.toList) =
      (List.range s.log.size).flatMap fun n => s.journalAt n ++ s.log[n]?.toList := by
    refine List.flatMap_congr fun n hn => ?_
    rw [Array.getElem?_push, if_neg (Nat.ne_of_lt (List.mem_range.mp hn))]
    rfl
  rw [screen_eq, screen_eq]
  simp only [Array.size_push]
  rw [hlater, List.range_succ, List.flatMap_append, hearlier]
  simp [journalAt]

/-- An entry of the journal shows behind all that has shown before. -/
theorem screen_note (s : Ports) (level : JournalLevel) (origin message : String) :
    (s.note level origin message).screen = s.screen ++ [.wrote .err
      (Utf8.encode { position := s.log.size, level, origin, message : JournalEntry }.line)] := by
  have hearlier : (List.range s.log.size).flatMap (fun n =>
        (s.note level origin message).journalAt n ++ s.log[n]?.toList) =
      (List.range s.log.size).flatMap fun n => s.journalAt n ++ s.log[n]?.toList := by
    refine List.flatMap_congr fun n hn => ?_
    have hne : s.log.size ≠ n := Nat.ne_of_gt (List.mem_range.mp hn)
    simp [journalAt, note, List.filter_append, hne]
  rw [screen_eq, screen_eq]
  show _ ++ (s.note level origin message).journalAt s.log.size = _
  rw [List.append_assoc]
  refine congrArg₂ _ hearlier ?_
  simp [journalAt, note, List.filter_append]

theorem note_grows (s : Ports) (level : JournalLevel) (origin message : String) :
    Grows s (s.note level origin message) := by
  intro hdated
  refine ⟨fun e he => ?_, ?_⟩
  · rw [note, Array.toList_push, List.mem_append, List.mem_singleton] at he
    rcases he with hold | rfl
    · exact hdated e hold
    · exact Nat.le_refl _
  · rw [screen_note]
    exact List.prefix_append _ _

/-! ## What goes through -/

/-- What went on between two states of the ports: they have only taken in more requests, how they
show text is as before, and so is that they are willing, what shows has grown, and unless something
was refused, exactly `events` went through. -/
structure Follows (events : List Event) (s s' : Ports) : Prop where
  past : ∀ p, (s.state p).past <:+ (s'.state p).past
  colours : ∀ p, (s'.state p).colours = (s.state p).colours
  willing : s.Willing → s'.Willing
  grows : Grows s s'
  log : s'.Unrefused → s'.log.toList = s.log.toList ++ events

/-- What was not refused later was not refused before. -/
theorem Follows.unrefused {events : List Event} {s s' : Ports} (h : Follows events s s')
    (hs' : s'.Unrefused) : s.Unrefused :=
  fun p answered ha => hs' p answered ((h.past p).mem ha)

theorem Follows.refl (s : Ports) : Follows [] s s where
  past _ := List.suffix_rfl
  colours _ := rfl
  willing h := h
  grows := .refl s
  log _ := by simp

theorem Follows.trans {a b : List Event} {s s' s'' : Ports} (h : Follows a s s')
    (h' : Follows b s' s'') : Follows (a ++ b) s s'' where
  past p := (h.past p).trans (h'.past p)
  colours p := (h'.colours p).trans (h.colours p)
  willing hs := h'.willing (h.willing hs)
  grows := h.grows.trans h'.grows
  log hs'' := by rw [h'.log hs'', h.log (h'.unrefused hs''), List.append_assoc]

/-- Once something has been refused, any account of the log will do. -/
theorem Follows.of_refused {a b : List Event} {s s' : Ports} (h : Follows a s s')
    (hs' : ¬ s'.Unrefused) : Follows b s s' where
  past := h.past
  colours := h.colours
  willing := h.willing
  grows := h.grows
  log hc := absurd hc hs'

theorem Willing.note {s : Ports} (h : s.Willing) (level : JournalLevel) (origin message : String) :
    (s.note level origin message).Willing where
  behaviour p := by
    have hp := h.behaviour p
    cases p <;> exact hp
  unrefused p := by
    have hp := h.unrefused p
    cases p <;> exact hp

/-- Nothing goes through for an entry of the journal. -/
theorem note_follows (s : Ports) (level : JournalLevel) (origin message : String) :
    Follows [] s (s.note level origin message) where
  past p := by cases p <;> exact List.suffix_rfl
  colours p := by cases p <;> rfl
  willing h := h.note level origin message
  grows := note_grows s level origin message
  log _ := (List.append_nil _).symm

theorem Follows.note {events : List Event} {s s' : Ports} (h : Follows events s s')
    (level : JournalLevel) (origin message : String) :
    Follows events s (s'.note level origin message) := by
  have hnoted := h.trans (note_follows s' level origin message)
  rwa [List.append_nil] at hnoted

/-! ## Requests -/

/-- The ports once one of them has answered a request, with what went through. -/
def afterReply (s : Ports) (p : Port) (request : Request) (reply : Reply) (event : Event) : Ports :=
  { s.setState p { s.state p with past := (request, reply) :: (s.state p).past } with
    log := s.log.push event }

theorem ask_of_void {p : Port} {request : Request} (hv : request.isVoid) (s : Ports) :
    ask p request s = .ok () s := by
  simp [ask, hv]

theorem ask_eq {p : Port} {request : Request} (hv : ¬ request.isVoid) (s : Ports) :
    ask p request s =
      match (s.state p).behaviour (s.state p).past request with
      | .done => .ok () (s.afterReply p request .done (effect p (s.state p).colours request))
      | .refused taken cause =>
        .error cause (s.afterReply p request (.refused taken cause) (residue p taken request)) := by
  simp only [ask, hv, Bool.false_eq_true, if_false]
  cases (s.state p).behaviour (s.state p).past request <;> cases p <;> rfl

section AfterReply

variable (s : Ports) (p q : Port) (request : Request) (reply : Reply) (event : Event)

@[simp] theorem past_afterReply :
    ((s.afterReply p request reply event).state q).past =
      if q = p then (request, reply) :: (s.state p).past else (s.state q).past := by
  cases p <;> cases q <;> rfl

@[simp] theorem colours_afterReply :
    ((s.afterReply p request reply event).state q).colours = (s.state q).colours := by
  cases p <;> cases q <;> rfl

@[simp] theorem log_afterReply :
    (s.afterReply p request reply event).log.toList = s.log.toList ++ [event] := by
  simp [afterReply]

theorem grows_afterReply : Grows s (s.afterReply p request reply event) := by
  have hjournal : (s.afterReply p request reply event).journal = s.journal := by cases p <;> rfl
  have hlog : (s.afterReply p request reply event).log = s.log.push event := rfl
  intro hdated
  refine ⟨fun e he => ?_, ?_⟩
  · rw [hjournal] at he
    rw [hlog, Array.size_push]
    exact Nat.le_succ_of_le (hdated e he)
  · have hscreen : (s.afterReply p request reply event).screen =
        { s with log := s.log.push event }.screen := by cases p <;> rfl
    rw [hscreen, screen_push hdated]
    exact List.prefix_append _ _

theorem Willing.afterReply {s : Ports} (h : s.Willing) (p : Port) (request : Request)
    (event : Event) : (s.afterReply p request .done event).Willing where
  behaviour q := by
    have hq := h.behaviour q
    cases p <;> cases q <;> exact hq
  unrefused q answered hmem := by
    rw [past_afterReply] at hmem
    split at hmem
    · rcases List.mem_cons.mp hmem with rfl | hmem
      · rfl
      · exact h.unrefused p answered hmem
    · exact h.unrefused q answered hmem

/-- A reply leaves everything as `Follows` wants it, except that it may be a refusal. -/
theorem afterReply_follows {events : List Event} (hwilling : s.Willing → reply = .done)
    (h : reply = .done → events = [event]) :
    Follows events s (s.afterReply p request reply event) where
  past q := by
    rw [past_afterReply]
    by_cases hq : q = p
    · subst hq
      simp
    · simp [hq]
  colours q := colours_afterReply s p q request reply event
  willing hs := by
    rw [hwilling hs]
    exact hs.afterReply p request event
  grows := grows_afterReply s p request reply event
  log hs' := by
    have hdone : reply = .done := by
      refine hs' p (request, reply) ?_
      rw [past_afterReply, if_pos rfl]
      exact List.mem_cons_self
    rw [log_afterReply, h hdone]

end AfterReply

theorem Willing.ask {s : Ports} (h : s.Willing) {p : Port} {request : Request}
    (hv : ¬ request.isVoid) :
    ask p request s =
      .ok () (s.afterReply p request .done (effect p (s.state p).colours request)) := by
  rw [ask_eq hv, h.behaviour p]
  rfl

theorem not_unrefused_of_ask {p : Port} {request : Request} {cause : SystemError} {s s' : Ports}
    (h : ask p request s = .error cause s') : ¬ s'.Unrefused := by
  by_cases hv : request.isVoid
  · rw [ask_of_void hv] at h
    cases h
  · rw [ask_eq hv] at h
    split at h
    · cases h
    · rename_i taken c _
      cases h
      intro hs'
      have hmem := hs' p (request, .refused taken cause)
      rw [past_afterReply, if_pos rfl] at hmem
      cases hmem List.mem_cons_self

theorem log_of_ask_ok {p : Port} {request : Request} {s s' : Ports} {u : Unit}
    (h : ask p request s = .ok u s') :
    s'.log.toList = s.log.toList ++ carried p (s.state p).colours [request] := by
  by_cases hv : request.isVoid
  · rw [ask_of_void hv] at h
    cases h
    simp [carried, hv]
  · rw [ask_eq hv] at h
    split at h
    · cases h
      simp [carried, hv]
    · cases h

/-- A request to a port brings to the log what goes through when it is carried out. -/
theorem ask_follows (p : Port) (request : Request) (s : Ports) :
    Follows (carried p (s.state p).colours [request]) s (stateAfter (ask p request) s) := by
  by_cases hv : request.isVoid
  · rw [stateAfter_of_ok (ask_of_void hv s)]
    simpa [carried, hv] using Follows.refl s
  · have hc : carried p (s.state p).colours [request] = [effect p (s.state p).colours request] := by
      simp [carried, hv]
    rw [hc]
    have ha := ask_eq (p := p) hv s
    split at ha
    · rw [stateAfter_of_ok ha]
      exact afterReply_follows s p request _ _ (fun _ => rfl) fun _ => rfl
    · rename_i taken cause hrefused
      rw [stateAfter_of_error ha]
      refine afterReply_follows s p request _ _ (fun hs => ?_) fun h => by cases h
      rw [hs.behaviour p] at hrefused
      cases hrefused

/-- Requests to a port bring to the log what goes through when all are carried out. -/
theorem askAll_follows (p : Port) (requests : List Request) (s : Ports) :
    Follows (carried p (s.state p).colours requests) s (stateAfter (askAll p requests) s) := by
  induction requests generalizing s with
  | nil => exact .refl s
  | cons request rest ih =>
    have hask := ask_follows p request s
    cases ha : ask p request s with
    | error cause s' =>
      have hs : stateAfter (askAll p (request :: rest)) s = s' :=
        stateAfter_bind_of_error ha
      rw [stateAfter_of_error ha] at hask
      rw [hs]
      exact hask.of_refused (not_unrefused_of_ask ha)
    | ok u s' =>
      have hs : stateAfter (askAll p (request :: rest)) s = stateAfter (askAll p rest) s' :=
        stateAfter_bind_of_ok ha
      rw [stateAfter_of_ok ha] at hask
      rw [hs, show request :: rest = [request] ++ rest from rfl, carried_append]
      have hrest := ih s'
      rw [hask.colours p] at hrest
      exact hask.trans hrest

theorem after_eq (attempt : EStateM SystemError Ports Unit) (s : Ports) :
    after attempt s = stateAfter attempt s := by
  unfold after stateAfter
  cases attempt s <;> rfl

end Ports

end MacroTrace
