import Waymark.Proofs.Loop.Trace
import Waymark.Surface.Layers

/-!
# What counts is on its way

A session knows by two numbers which lookup and which route request count, and the loop knows by its
tasks what is on its way. The two accounts agree: at every head of the loop, what counts is the last
that was begun, and exactly one task that was not aborted carries it. So no gesture that was accepted
is lost, and nothing counts any more when no task is left.

Both accounts are `Counted`: what is pending is what the tasks carry that were not aborted. `Tracked`
is the invariant of a loop. A task that crashes is put away without an answer, and what it carried may
count for ever; so the invariant holds of runs in which none does.
-/

namespace Waymark.Loop

/-- What the tasks are for that were not aborted, where `carried` says what a task is for. -/
def underway {α : Type} (carried : Work → Option α) (tasks : List Task) : List α :=
  (tasks.filter fun t => !t.work.isAborted).filterMap fun t => carried t.work

section

variable {α : Type} {carried : Work → Option α} {tasks : List Task}

/-- Something is underway if a task carries it that was not aborted. -/
theorem mem_underway {a : α} :
    a ∈ underway carried tasks ↔
      ∃ t ∈ tasks, t.work.isAborted = false ∧ carried t.work = some a := by
  unfold underway
  rw [List.mem_filterMap]
  constructor
  · rintro ⟨t, ht, ha⟩
    obtain ⟨ht, hab⟩ := List.mem_filter.1 ht
    exact ⟨t, ht, by simpa using hab, ha⟩
  · rintro ⟨t, ht, hab, ha⟩
    exact ⟨t, List.mem_filter.2 ⟨ht, by simpa using hab⟩, ha⟩

/-- A new task adds what it is for. -/
theorem underway_spawn {w : Work} (hw : w.isAborted = false) (id : Nat) :
    underway carried (tasks ++ [⟨id, w⟩]) = underway carried tasks ++ (carried w).toList := by
  unfold underway
  rw [List.filter_append, List.filter_cons_of_pos (by simp [hw]), List.filter_nil,
    List.filterMap_append]
  cases h : carried w with
  | none => simp [h]
  | some a => simp [h]

/-- Tasks may go on in any way in which each is still for the same, without an abort. -/
theorem underway_map {f : Task → Task} (hf : ∀ t, carried (f t).work = carried t.work)
    (hab : ∀ t, (f t).work.isAborted = t.work.isAborted) :
    underway carried (tasks.map f) = underway carried tasks := by
  unfold underway
  rw [List.filter_map, List.filterMap_map]
  simp only [Function.comp_def, hf, hab]

/-- Of what is underway, some is no longer so when tasks are aborted. -/
theorem underway_abort (hf : ∀ w, carried w.abort = carried w) :
    (underway carried (tasks.map fun t => { t with work := t.work.abort })).Sublist
      (underway carried tasks) := by
  unfold underway
  rw [List.filter_map, List.filterMap_map]
  simp only [Function.comp_def, hf]
  refine List.Sublist.filterMap _ (List.monotone_filter_right _ ?_)
  intro t ht
  simp only [Bool.not_eq_true'] at ht ⊢
  exact t.work.isAborted_of_abort ht

/-- A task that is put away takes with it only what it carries. -/
theorem underway_drop {n : Nat} (hn : Numbered tasks n) {id : Nat} {w : Work}
    (hw : ⟨id, w⟩ ∈ tasks) {a : α} (ha : a ∈ underway carried tasks)
    (hne : w.isAborted = true ∨ carried w ≠ some a) :
    a ∈ underway carried (tasks.filter fun t => t.id != id) := by
  obtain ⟨t, ht, hab, hcarries⟩ := mem_underway.1 ha
  -- The task that carries it is not the one that is put away.
  have hid : t.id ≠ id := by
    intro he
    obtain rfl : t = ⟨id, w⟩ := hn.eq_of_id_eq ht hw he
    rcases hne with hne | hne
    · rw [hne] at hab
      cases hab
    · exact hne hcarries
  exact mem_underway.2 ⟨t, List.mem_filter.2 ⟨ht, by simpa using hid⟩, hab, hcarries⟩

/-- What is underway after a task is put away was so before. -/
theorem underway_drop_sublist (id : Nat) :
    (underway carried (tasks.filter fun t => t.id != id)).Sublist (underway carried tasks) :=
  (List.filter_sublist.filter _).filterMap _

end

variable {σ : Type}

/-- The lookups of the tasks that were not aborted. -/
def lookupsUnderway (l : Loop σ) : List Lookup := underway Work.lookup? l.tasks

/-- The route requests of the tasks that were not aborted. -/
def requestsUnderway (l : Loop σ) : List RouteRequest := underway Work.request? l.tasks

/-- The invariant of a loop in which no task has crashed, where `begun` are the lookups and `asked`
the route requests that were begun so far. -/
structure Tracked (l : Loop σ) (begun : List Lookup) (asked : List RouteRequest) : Prop where
  /-- The tasks have numbers of their own. -/
  numbered : Numbered l.tasks l.started
  /-- No task has crashed. -/
  uncrashed : ∀ t ∈ l.tasks, t.work.isCrashed = false
  /-- The session has counted the lookups. -/
  issued : l.session.selection.issued = begun.length
  /-- The session has counted the route requests. -/
  routesIssued : l.session.routesIssued = asked.length
  /-- The ticket that counts is on its way. -/
  lookups : Counted (·.ticket.seq) begun l.lookupsUnderway l.session.selection.current
  /-- The route request that counts is on its way. -/
  routes : Counted (·.seq) asked l.requestsUnderway l.session.routeCurrent

namespace Tracked

variable {l : Loop σ} {begun : List Lookup} {asked : List RouteRequest}

/-- The invariant does not depend on the waiters. -/
theorem waiters (h : Tracked l begun asked) (waiters : List Nat) :
    Tracked { l with waiters } begun asked :=
  ⟨h.numbered, h.uncrashed, h.issued, h.routesIssued, h.lookups, h.routes⟩

/-- A lookup that is started counts from then on. -/
theorem spawnLookup (h : Tracked l begun asked) (target : Target) (point : Point) :
    Tracked ({ l with session := l.session.ticketed target }.spawn
        (.lookup ⟨⟨l.session.selection.issued + 1, target⟩, point⟩ .running))
      (begun ++ [⟨⟨l.session.selection.issued + 1, target⟩, point⟩]) asked where
  numbered := h.numbered.spawn _
  uncrashed := List.forall_mem_append.2 ⟨h.uncrashed, by simp [Work.isCrashed]⟩
  issued := by
    rw [List.length_append, List.length_singleton, ← h.issued]
    rfl
  routesIssued := h.routesIssued
  lookups := by
    have hmake := h.lookups.make (a := ⟨⟨l.session.selection.issued + 1, target⟩, point⟩)
      (by rw [← h.issued])
    unfold lookupsUnderway spawn
    rw [underway_spawn rfl]
    exact hmake
  routes := by
    unfold requestsUnderway spawn
    rw [underway_spawn rfl, show Work.request? _ = none from rfl, Option.toList_none,
      List.append_nil]
    exact h.routes

/-- A route request that is started counts from then on. -/
theorem spawnRoute (h : Tracked l begun asked) (source destination : UInt64) :
    Tracked ({ l with session := l.session.requested }.spawn
        (.route ⟨l.session.routesIssued + 1, source, destination⟩ .running))
      begun (asked ++ [⟨l.session.routesIssued + 1, source, destination⟩]) where
  numbered := h.numbered.spawn _
  uncrashed := List.forall_mem_append.2 ⟨h.uncrashed, by simp [Work.isCrashed]⟩
  issued := h.issued
  routesIssued := by
    rw [List.length_append, List.length_singleton, ← h.routesIssued]
    rfl
  lookups := by
    unfold lookupsUnderway spawn
    rw [underway_spawn rfl, show Work.lookup? _ = none from rfl, Option.toList_none,
      List.append_nil]
    exact h.lookups
  routes := by
    have hmake := h.routes.make (a := ⟨l.session.routesIssued + 1, source, destination⟩)
      (by rw [← h.routesIssued])
    unfold requestsUnderway spawn
    rw [underway_spawn rfl]
    exact hmake

/-- A task may be put away if, of the lookup and the route request that count, it carries none that
still does. -/
theorem drop (h : Tracked l begun asked) {id : Nat} {w : Work} (hw : l.task? id = some ⟨id, w⟩)
    {session : Session σ}
    (hissued : session.selection.issued = l.session.selection.issued)
    (hroutes : session.routesIssued = l.session.routesIssued)
    (hlookup : session.selection.current = none ∨
      session.selection.current = l.session.selection.current ∧ (w.isAborted = true ∨
        ∀ k, w.lookup? = some k → l.session.selection.current ≠ some k.ticket.seq))
    (hrequest : session.routeCurrent = none ∨
      session.routeCurrent = l.session.routeCurrent ∧ (w.isAborted = true ∨
        ∀ q, w.request? = some q → l.session.routeCurrent ≠ some q.seq)) :
    Tracked { l.drop id with session } begun asked where
  numbered := h.numbered.filter _
  uncrashed := fun t ht => h.uncrashed t (List.mem_filter.1 ht).1
  issued := hissued.trans h.issued
  routesIssued := hroutes.trans h.routesIssued
  lookups := by
    refine h.lookups.shrink (underway_drop_sublist id) (hlookup.imp_right (And.imp_right ?_))
    intro hkeep k hk hcurrent
    exact underway_drop h.numbered (mem_of_task? hw).1 hk
      (hkeep.imp_right fun hkeep he => hkeep k he hcurrent)
  routes := by
    refine h.routes.shrink (underway_drop_sublist id) (hrequest.imp_right (And.imp_right ?_))
    intro hkeep q hq hcurrent
    exact underway_drop h.numbered (mem_of_task? hw).1 hq
      (hkeep.imp_right fun hkeep he => hkeep q he hcurrent)

/-- A reset aborts the tasks, but nothing counts any more. -/
theorem reset [Surface σ] (h : Tracked l begun asked) :
    Tracked { l.abortAll with session := l.session.reset } begun asked where
  numbered := h.numbered.map fun _ => rfl
  uncrashed := by
    intro t ht
    obtain ⟨u, hu, rfl⟩ := List.mem_map.1 ht
    rw [Work.isCrashed_abort]
    exact h.uncrashed u hu
  issued := h.issued
  routesIssued := h.routesIssued
  lookups := h.lookups.shrink (underway_abort Work.lookup?_abort) (.inl rfl)
  routes := h.routes.shrink (underway_abort Work.request?_abort) (.inl rfl)

/-- A task that ends, but not by a crash, goes on to carry what it did. -/
theorem finish (h : Tracked l begun asked) (id : Nat) {ending : Work.Ending}
    (hending : ending ≠ .crash) : Tracked (l.finish id ending) begun asked where
  numbered := h.numbered.map (finish_id id ending)
  uncrashed := by
    intro t ht
    obtain ⟨u, hu, rfl⟩ := List.mem_map.1 ht
    rw [finish_work (fun w => w.isCrashed_finish hending)]
    exact h.uncrashed u hu
  issued := h.issued
  routesIssued := h.routesIssued
  lookups := by
    unfold lookupsUnderway Loop.finish
    rw [underway_map (finish_work (fun w => w.lookup?_finish ending) id)
      (finish_work (fun w => w.isAborted_finish ending) id)]
    exact h.lookups
  routes := by
    unfold requestsUnderway Loop.finish
    rw [underway_map (finish_work (fun w => w.request?_finish ending) id)
      (finish_work (fun w => w.isAborted_finish ending) id)]
    exact h.routes

end Tracked

variable [Surface σ]

/-- A round keeps the invariant, unless it is a crash. -/
theorem Round.tracked {l l' : Loop σ} {s : Signal} {w : Option Work} {es : List Event}
    {begun : List Lookup} {asked : List RouteRequest} (r : Round l s w es l')
    (h : Tracked l begun asked) (hs : ∀ id, s ≠ .ended id .crash) :
    Tracked l' (begun ++ (w.bind Work.lookup?).toList) (asked ++ (w.bind Work.request?).toList) := by
  cases r with
  | refuse | settle | idle =>
    simp only [Option.bind_none, Option.toList_none, List.append_nil]
    exact h.waiters _
  | @startLookup c target point hc =>
    simp only [Option.bind_some, Work.lookup?, Work.request?, Option.toList_some,
      Option.toList_none, List.append_nil]
    exact h.spawnLookup target point
  | startRoute source destination =>
    simp only [Option.bind_some, Work.lookup?, Work.request?, Option.toList_some,
      Option.toList_none, List.append_nil]
    exact h.spawnRoute source destination
  | «show» =>
    simp only [Option.bind_none, Option.toList_none, List.append_nil]
    exact ⟨h.numbered, h.uncrashed, h.issued, h.routesIssued, h.lookups, h.routes.forget⟩
  | clear =>
    simp only [Option.bind_none, Option.toList_none, List.append_nil]
    exact ⟨h.numbered, h.uncrashed, h.issued, h.routesIssued, h.lookups, h.routes⟩
  | reset =>
    simp only [Option.bind_none, Option.toList_none, List.append_nil]
    exact h.reset
  | finish id ending =>
    simp only [Option.bind_none, Option.toList_none, List.append_nil]
    exact h.finish id fun he => hs id (by rw [he])
  | @reapLookup id k answer ht =>
    simp only [Option.bind_none, Option.toList_none, List.append_nil]
    -- Either the ticket was current and is used up, or it was not, and what counts stays.
    refine h.drop ht (by simp) (by simp) ?_ (.inr ⟨by simp, .inr (by simp [Work.request?])⟩)
    rw [Session.completeLookup_current]
    split
    · exact .inl rfl
    · rename_i hstale
      exact .inr ⟨rfl, .inr (by rintro _ ⟨⟩; exact hstale)⟩
  | @reapRoute id q answer ht =>
    simp only [Option.bind_none, Option.toList_none, List.append_nil]
    refine h.drop ht (by simp) (by simp) (.inr ⟨by simp, .inr (by simp [Work.lookup?])⟩) ?_
    rw [Session.completeRoute_routeCurrent]
    split
    · exact .inl rfl
    · rename_i hstale
      exact .inr ⟨rfl, .inr (by rintro _ ⟨⟩; exact hstale)⟩
  | reapCrashed ht hw =>
    -- No task has crashed.
    rw [h.uncrashed _ (mem_of_task? ht).1] at hw
    cases hw
  | reapAborted ht hw =>
    simp only [Option.bind_none, Option.toList_none, List.append_nil]
    -- What was aborted does not count.
    exact h.drop ht rfl rfl (.inr ⟨rfl, .inl hw⟩) (.inr ⟨rfl, .inl hw⟩)

/-- The invariant holds at every head of the loop of a new session, as long as no task crashes. -/
theorem run_tracked (surface : σ) (settings : Settings) {signals : List Signal}
    (uncrashed : ∀ id, .ended id .crash ∉ signals) :
    let first := start (Session.start surface settings)
    Tracked (first.run signals).2 (Moment.lookups (first.trace signals))
      (Moment.requests (first.trace signals)) := by
  have hfirst : Tracked (start (Session.start surface settings)) [] [] :=
    ⟨.nil, by simp [start], rfl, rfl, .nil, .nil⟩
  refine run_induction (P := fun past l => Tracked l (Moment.lookups past) (Moment.requests past))
    ?_ [] hfirst
  intro past l s hs h
  obtain ⟨l', waiters, hround, hafter⟩ := Moment.round ⟨l, s⟩
  show Tracked (Moment.after ⟨l, s⟩) _ _
  unfold Moment.lookups Moment.requests
  rw [Moment.filterMap_concat, Moment.filterMap_concat, hafter]
  exact (hround.tracked h fun id he => uncrashed id (he ▸ hs)).waiters waiters

/-- At every head of the loop of a new session in which no task has crashed: if a ticket is current,
it is that of the last lookup that was begun, and of the tasks that were not aborted exactly one
carries its number, for that very lookup; the same holds of route requests. So when no task is left,
nothing is current. -/
theorem current_underway (surface : σ) (settings : Settings) (signals : List Signal)
    (uncrashed : ∀ id, .ended id .crash ∉ signals) :
    let first := start (Session.start surface settings)
    let last := (first.run signals).2
    (∀ n, last.session.selection.current = some n →
      ∃ k, last.lookupsUnderway.filter (fun u => u.ticket.seq == n) = [k] ∧
        (Moment.lookups (first.trace signals)).getLast? = some k ∧ k.ticket.seq = n ∧
        last.session.selection.issued = n) ∧
    (∀ m, last.session.routeCurrent = some m →
      ∃ q, last.requestsUnderway.filter (fun u => u.seq == m) = [q] ∧
        (Moment.requests (first.trace signals)).getLast? = some q ∧ q.seq = m ∧
        last.session.routesIssued = m) ∧
    (last.tasks = [] →
      last.session.selection.current = none ∧ last.session.routeCurrent = none) := by
  intro first last
  have h : Tracked last _ _ := run_tracked surface settings uncrashed
  refine ⟨?_, ?_, ?_⟩
  · intro n hn
    obtain ⟨k, hk, hlast, hseq⟩ := h.lookups.unique hn
    exact ⟨k, hk, hlast, hseq, h.issued.trans (h.lookups.current n hn).1.symm⟩
  · intro m hm
    obtain ⟨q, hq, hlast, hseq⟩ := h.routes.unique hm
    exact ⟨q, hq, hlast, hseq, h.routesIssued.trans (h.routes.current m hm).1.symm⟩
  · intro hempty
    have hnone {α : Type} (carried : Work → Option α) : underway carried last.tasks = [] := by
      rw [hempty]
      rfl
    exact ⟨h.lookups.current_eq_none (hnone _), h.routes.current_eq_none (hnone _)⟩

/-- Two clicks, of which the first is answered late: its answer is put away, and the second click is
the one on its way. -/
theorem current_underway_overtaken :
    let first := start (Session.start Layers.empty .default)
    let signals : List Signal := [.command (.click 48.0 9.0), .command (.click 48.1 9.2),
      .ended 0 (.node (.ok ⟨⟨48.0, 9.0⟩, 7⟩)), .reaped 0]
    let last := (first.run signals).2
    (∀ id, .ended id .crash ∉ signals) ∧ last.session.selection.current = some 2 ∧
      ∃ k, last.lookupsUnderway.filter (fun u => u.ticket.seq == 2) = [k] ∧
        (Moment.lookups (first.trace signals)).getLast? = some k ∧ k.ticket.seq = 2 ∧
        last.session.selection.issued = 2 := by
  intro first signals last
  have hsignals : ∀ id, .ended id .crash ∉ signals := by simp [signals]
  have hcurrent : last.session.selection.current = some 2 := by decide
  exact ⟨hsignals, hcurrent, (current_underway Layers.empty .default signals hsignals).1 2 hcurrent⟩

end Waymark.Loop
