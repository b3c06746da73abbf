import Waymark.Proofs.Session.Frame
import Waymark.Surface.Layers

/-!
# The latest gesture wins

The answer of a lookup is applied only with the ticket of the latest gesture, once, and not after a
reset. What decides is the one number that a session holds as current. A later ticket, an answer
with the ticket itself and a reset take that number away (`act_current_iff`), and nothing brings it
back: numbers are given in ascending order, so that a ticket which is stale once is so for ever.
Hence the numbers of the tickets that are applied ascend as well (`run_ascending`).
-/

namespace Waymark.Session

/-- What became of an answer is that it was stale. -/
def Discarded {α : Type} (outcome : Except Error (Outcome α)) : Prop :=
  ∃ seq, outcome = .ok (.stale seq)

/-- The role that a gesture is for, when `active` is the role of the next click. -/
def Operation.role? (active : Role) : Operation → Option Role
  | .beginClick _ _ => some active
  | .beginSubmit role _ _ => some role
  | _ => none

namespace Entry

/-- The ticket with which a node was placed, if one was. -/
def applies : Entry → Option Ticket
  | ⟨.completeLookup ticket _, .marker (.ok (.applied _))⟩ => some ticket
  | _ => none

/-- Whether the ticket of a number no longer counts after an entry: another ticket is handed out, an
answer comes with the number, or everything is removed. -/
def Overtakes (n : Nat) (e : Entry) : Prop :=
  (∃ ticket, e.issues = some (.lookup ticket)) ∨
    (∃ ticket, e.completes = some (.lookup ticket) ∧ ticket.seq = n) ∨ e.operation = .reset

end Entry

/-- The tickets with which nodes were placed in a history, in order. -/
def applied (history : List Entry) : List Ticket := history.filterMap Entry.applies

variable {σ : Type}

/-- The tickets with which nodes were placed in a history so far have ascending numbers, all of them
below the current one. -/
structure Ascending (past : List Entry) (s : Session σ) : Prop where
  /-- The numbers ascend. -/
  pairwise : (applied past).Pairwise fun t u => t.seq < u.seq
  /-- The tickets were handed out. -/
  le_issued : ∀ t ∈ applied past, t.seq ≤ s.selection.issued
  /-- The current ticket was handed out after them. -/
  lt_current : ∀ n, s.selection.current = some n →
    n ≤ s.selection.issued ∧ ∀ t ∈ applied past, t.seq < n

namespace Ascending

variable {past : List Entry} {s t : Session σ}

/-- An entry that places no node may hand out a ticket, or take away the current one. -/
theorem concat_of_none (h : Ascending past s) {e : Entry} (he : e.applies = none)
    (hissued : s.selection.issued ≤ t.selection.issued)
    (hcurrent : ∀ n, t.selection.current = some n →
      s.selection.current = some n ∨ n = s.selection.issued + 1 ∧ n = t.selection.issued) :
    Ascending (past ++ [e]) t := by
  have happlied : applied (past ++ [e]) = applied past := by simp [applied, he]
  refine ⟨?_, ?_, ?_⟩ <;> rw [happlied]
  · exact h.pairwise
  · exact fun u hu => Nat.le_trans (h.le_issued u hu) hissued
  · intro n hn
    rcases hcurrent n hn with hn | ⟨hn, hn'⟩
    · obtain ⟨hle, hlt⟩ := h.lt_current n hn
      exact ⟨Nat.le_trans hle hissued, hlt⟩
    · refine ⟨Nat.le_of_eq hn', fun u hu => ?_⟩
      have hle := h.le_issued u hu
      omega

/-- An operation that hands out no ticket and places no node keeps the numbers as they are. -/
theorem concat_of_selection (h : Ascending past s) {e : Entry} (he : e.applies = none)
    (hselection : t.selection = s.selection) : Ascending (past ++ [e]) t := by
  refine h.concat_of_none he (Nat.le_of_eq (by rw [hselection])) fun n hn => .inl ?_
  rw [← hselection]
  exact hn

/-- A ticket that is handed out has a number above those before. -/
theorem concat_of_ticketed (h : Ascending past s) {e : Entry} (he : e.applies = none)
    (target : Target) : Ascending (past ++ [e]) (s.ticketed target) := by
  refine h.concat_of_none he (Nat.le_succ _) fun n hn => .inr ?_
  have hseq : s.selection.issued + 1 = n := Option.some.inj hn
  exact ⟨hseq.symm, hseq.symm⟩

/-- The ticket with which a node is placed was the current one, and comes after those before. -/
theorem concat_of_applied (h : Ascending past s) {e : Entry} {ticket : Ticket}
    (he : e.applies = some ticket) (hc : s.selection.current = some ticket.seq)
    (hissued : t.selection.issued = s.selection.issued) (hcurrent : t.selection.current = none) :
    Ascending (past ++ [e]) t := by
  obtain ⟨hle, hlt⟩ := h.lt_current _ hc
  have happlied : applied (past ++ [e]) = applied past ++ [ticket] := by simp [applied, he]
  refine ⟨?_, ?_, ?_⟩
  · rw [happlied, List.pairwise_append]
    refine ⟨h.pairwise, List.pairwise_singleton _ _, fun u hu v hv => ?_⟩
    rw [List.mem_singleton.1 hv]
    exact hlt u hu
  · rw [happlied, List.forall_mem_append, hissued]
    exact ⟨h.le_issued, by simpa using hle⟩
  · intro n hn
    rw [hcurrent] at hn
    cases hn

end Ascending

variable [Surface σ]

/-- An operation about the route overtakes no ticket. -/
theorem not_overtakes_of_isRoute (s : Session σ) {operation : Operation}
    (h : operation.isRoute = true) (n : Nat) : ¬ (s.entry operation).Overtakes n := by
  cases operation with
  | beginRoute =>
    rcases s.beginRoute_cases with ⟨role, -, hs⟩ | ⟨source, destination, -, -, hs⟩ <;>
      simp [entry, act, hs, Entry.Overtakes, Entry.issues, Entry.completes]
  | completeRoute | showRoute | showPayload | clearRoute =>
    simp [entry, act, Entry.Overtakes, Entry.issues, Entry.completes]
  | beginClick | beginSubmit | completeLookup | reset => cases h

/-- An answer overtakes the ticket that it comes with. -/
theorem overtakes_completeLookup (s : Session σ) (ticket : Ticket) (answer : Except Error Node)
    (n : Nat) : (s.entry (.completeLookup ticket answer)).Overtakes n ↔ ticket.seq = n := by
  simp [entry, act, Entry.Overtakes, Entry.issues, Entry.completes]

/-- The number of a ticket that was handed out is current after an operation exactly when it was so
before and the operation does not overtake it. -/
theorem act_current_iff {n : Nat} (s : Session σ) (operation : Operation)
    (hn : n ≤ s.selection.issued) :
    n ≤ (s.act operation).2.selection.issued ∧
      ((s.act operation).2.selection.current = some n ↔
        s.selection.current = some n ∧ ¬ (s.entry operation).Overtakes n) := by
  cases operation with
  | beginClick lat lng =>
    rcases s.beginClick_cases lat lng with ⟨fault, -, hs⟩ | ⟨point, -, hs⟩
    · simp [entry, act, hs, Entry.Overtakes, Entry.issues, Entry.completes, hn]
    · -- The new number is above all that were given.
      have hne : s.selection.issued + 1 ≠ n := by omega
      simp [entry, act, hs, Entry.Overtakes, Entry.issues, ticketed, Selection.issue, hne]
      omega
  | beginSubmit role lat lng =>
    rcases s.beginSubmit_cases role lat lng with ⟨fault, -, hs⟩ | ⟨point, -, hs⟩
    · simp [entry, act, hs, Entry.Overtakes, Entry.issues, Entry.completes, hn]
    · have hne : s.selection.issued + 1 ≠ n := by omega
      simp [entry, act, hs, Entry.Overtakes, Entry.issues, ticketed, Selection.issue, hne]
      omega
  | completeLookup ticket answer =>
    -- Only the answer with the current number takes it away.
    refine ⟨by simpa [act] using hn, ?_⟩
    show (s.completeLookup ticket answer).2.selection.current = some n ↔ _
    rw [completeLookup_current, overtakes_completeLookup]
    by_cases hc : s.selection.current = some ticket.seq
    · simp [hc]
    · simp only [if_neg hc, iff_self_and]
      rintro hcurrent rfl
      exact hc hcurrent
  | beginRoute | completeRoute | showRoute | showPayload | clearRoute =>
    rw [(s.act_of_isRoute rfl).1]
    exact ⟨hn, (and_iff_left (s.not_overtakes_of_isRoute rfl n)).symm⟩
  | reset =>
    exact ⟨hn, by simp [act, reset, Selection.reset, Selection.invalidate, entry, Entry.Overtakes]⟩

/-- The number of a ticket that was handed out is current after some operations exactly when it was
so before and no entry of theirs overtakes it. -/
theorem run_current_iff {s : Session σ} {n : Nat} (hn : n ≤ s.selection.issued)
    (operations : List Operation) :
    n ≤ (s.run operations).2.selection.issued ∧
      ((s.run operations).2.selection.current = some n ↔
        s.selection.current = some n ∧ ∀ e ∈ (s.run operations).1, ¬ e.Overtakes n) :=
  run_iff (fun s => n ≤ s.selection.issued) (fun s => s.selection.current = some n)
    (Entry.Overtakes n) (fun s operation hn => s.act_current_iff operation hn) hn operations

/-- The numbers still ascend after an operation. -/
theorem Ascending.act {past : List Entry} {s : Session σ} (h : Ascending past s)
    (operation : Operation) :
    Ascending (past ++ [s.entry operation]) (s.act operation).2 := by
  cases operation with
  | beginClick lat lng =>
    rcases s.beginClick_cases lat lng with ⟨fault, -, hs⟩ | ⟨point, -, hs⟩
    · simp only [Session.act, hs]
      exact h.concat_of_selection rfl rfl
    · simp only [Session.act, hs]
      exact h.concat_of_ticketed rfl _
  | beginSubmit role lat lng =>
    rcases s.beginSubmit_cases role lat lng with ⟨fault, -, hs⟩ | ⟨point, -, hs⟩
    · simp only [Session.act, hs]
      exact h.concat_of_selection rfl rfl
    · simp only [Session.act, hs]
      exact h.concat_of_ticketed rfl _
  | completeLookup ticket answer =>
    rcases s.completeLookup_cases ticket answer with
      ⟨-, hs⟩ | ⟨hc, ⟨e, -, hs⟩ | ⟨node, -, hs⟩⟩
    · simp only [entry, Session.act, hs]
      exact h.concat_of_selection rfl rfl
    · simp only [entry, Session.act, hs]
      exact h.concat_of_none rfl (Nat.le_refl _) (by rintro n ⟨⟩)
    · simp only [entry, Session.act, hs]
      exact h.concat_of_applied rfl hc (Selection.spend_issued _ _) (Selection.spend_current _ _)
  | beginRoute | completeRoute | showRoute | showPayload | clearRoute =>
    exact h.concat_of_selection rfl (s.act_of_isRoute rfl).1
  | reset => exact h.concat_of_none rfl (Nat.le_refl _) (by rintro n ⟨⟩)

/-- The tickets with which nodes are placed have ascending numbers, over every history. -/
theorem run_ascending (surface : σ) (settings : Settings) (operations : List Operation) :
    Ascending ((start surface settings).run operations).1
      ((start surface settings).run operations).2 := by
  have hfirst : Ascending [] (start surface settings) :=
    ⟨.nil, by simp [applied], by rintro n ⟨⟩⟩
  exact run_induction (P := Ascending) (fun _ _ operation h => h.act operation) operations [] hfirst

/-- The answer of a lookup is stale exactly when its ticket is not the current one. -/
theorem discarded_completeLookup_iff (s : Session σ) (ticket : Ticket)
    (answer : Except Error Node) :
    Discarded (s.completeLookup ticket answer).1 ↔ s.selection.current ≠ some ticket.seq := by
  rcases s.completeLookup_cases ticket answer with ⟨hc, h⟩ | ⟨hc, ⟨e, -, h⟩ | ⟨node, -, h⟩⟩ <;>
    simp [h, hc, Discarded]

/-- Whoever is given a lookup made a gesture for its role, and the ticket of it is the next one. -/
theorem act_eq_lookup {s : Session σ} {gesture : Operation} {k : Lookup}
    (h : (s.act gesture).1 = .lookup (.ok k)) :
    ∃ target, gesture.role? s.active = some target.role ∧
      k.ticket = ⟨s.selection.issued + 1, target⟩ ∧ (s.act gesture).2 = s.ticketed target := by
  cases gesture with
  | beginClick lat lng =>
    rcases s.beginClick_cases lat lng with ⟨fault, -, hs⟩ | ⟨point, -, hs⟩ <;>
      simp only [act, hs] at h ⊢ <;> cases h
    exact ⟨.toggle s.active, rfl, rfl, rfl⟩
  | beginSubmit role lat lng =>
    rcases s.beginSubmit_cases role lat lng with ⟨fault, -, hs⟩ | ⟨point, -, hs⟩ <;>
      simp only [act, hs] at h ⊢ <;> cases h
    exact ⟨.manual role, rfl, rfl, rfl⟩
  | completeLookup | beginRoute | completeRoute | showRoute | showPayload | clearRoute | reset =>
    cases h

/-- A node is placed as the marker of the role of its ticket, and the other marker and the route
stay as they were. -/
theorem placed_marker (s : Session σ) (target : Target) (node : Node) :
    (s.placed target node).marker target.role = some (s.placedMarker target node) ∧
      (s.placed target node).marker target.role.other = s.marker target.role.other ∧
      (s.placed target node).route = s.route := by
  refine ⟨?_, ?_, rfl⟩ <;> cases h : target.role <;>
    simp [placed, placedMarker, Session.marker, Markers.assign, Markers.get, Markers.put,
      Selection.assignment, Role.other, h]

/-- In a list without repetition, what comes last comes after everything else. -/
theorem getLast?_append_cons {α : Type} {l rest : List α} {a : α}
    (h : (l ++ a :: rest).Nodup) : (l ++ a :: rest).getLast? = some a ↔ rest = [] := by
  cases rest with
  | nil => simp
  | cons b rest =>
    have hnot : a ∉ b :: rest := (List.nodup_cons.1 h.of_append_right).1
    simp only [List.getLast?_append, List.getLast?_cons_cons, reduceCtorEq, iff_false]
    intro hlast
    refine hnot (List.mem_of_getLast? ?_)
    simpa using hlast

/-- A ticket that was handed out in a history is overtaken by no later entry exactly when it is the
last that was handed out, no later answer comes with it, and no reset is later. -/
theorem forall_not_overtakes_iff {past later : List Entry} {made : Entry} {ticket : Ticket}
    (hmade : made.issues = some (.lookup ticket))
    (hnodup : ((tickets (issued (past ++ made :: later))).map Ticket.seq).Nodup)
    (handed_out : ∀ e ∈ later, ∀ u, e.completes = some (.lookup u) →
      u ∈ tickets (issued (past ++ made :: later))) :
    (∀ e ∈ later, ¬ e.Overtakes ticket.seq) ↔
      (tickets (issued (past ++ made :: later))).getLast? = some ticket ∧
        ∀ e ∈ later, e.completes ≠ some (.lookup ticket) ∧ e.operation ≠ .reset := by
  have hall : tickets (issued (past ++ made :: later)) =
      tickets (issued past) ++ ticket :: tickets (issued later) := by
    simp [issued, tickets, hmade, Request.ticket?]
  have hmem : ticket ∈ tickets (issued (past ++ made :: later)) := by
    rw [hall]
    exact List.mem_append_right _ List.mem_cons_self
  have hlast : (tickets (issued (past ++ made :: later))).getLast? = some ticket ↔
      ∀ e ∈ later, ∀ u, e.issues ≠ some (.lookup u) := by
    rw [hall, getLast?_append_cons (hall ▸ hnodup.of_map _), List.eq_nil_iff_forall_not_mem]
    simp only [mem_tickets, issued, List.mem_filterMap]
    grind
  rw [hlast]
  constructor
  · intro h
    refine ⟨fun e he u hu => h e he (.inl ⟨u, hu⟩), fun e he => ⟨fun hc => ?_, fun hr => ?_⟩⟩
    · exact h e he (.inr (.inl ⟨ticket, hc, rfl⟩))
    · exact h e he (.inr (.inr hr))
  · rintro ⟨hissues, hrest⟩ e he (⟨u, hu⟩ | ⟨u, hu, hseq⟩ | hr)
    · exact hissues e he u hu
    · -- Only the ticket itself has its number.
      have hsame : u = ticket :=
        List.inj_on_of_nodup_map hnodup (handed_out e he u hu) hmem hseq
      exact (hrest e he).1 (hsame ▸ hu)
    · exact (hrest e he).2 hr

/-- For every gesture that was given a lookup, and after any operations since, where answers come
only with tickets that were handed out: the answer is not stale exactly when the ticket is the last
that was handed out, was not answered since, and there was no reset since. A stale answer changes
nothing, and whatever follows, the ticket stays stale. A node that is not stale is placed as the
marker of the role of the gesture, and the other marker and the route stay as they were. Over the
whole history, no ticket is applied twice, and the numbers of those that are ascend. -/
theorem lookup_latest (surface : σ) (settings : Settings) (before : List Operation)
    (gesture : Operation) (after : List Operation) :
    let made := ((start surface settings).run before).2
    let later := (made.act gesture).2.run after
    let history := ((start surface settings).run (before ++ gesture :: after)).1
    ∀ k, (made.act gesture).1 = .lookup (.ok k) →
      (∀ e ∈ history, ∀ ticket, e.completes = some (.lookup ticket) →
        .lookup ticket ∈ issued history) →
      (applied history).Nodup ∧ (applied history).Pairwise (fun t u => t.seq < u.seq) ∧
      ∀ answer,
        let outcome := later.2.completeLookup k.ticket answer
        (¬ Discarded outcome.1 ↔ (tickets (issued history)).getLast? = some k.ticket ∧
          ∀ e ∈ later.1, e.completes ≠ some (.lookup k.ticket) ∧ e.operation ≠ .reset) ∧
        (Discarded outcome.1 → outcome.2 = later.2 ∧ ∀ operations answer,
          Discarded ((later.2.run operations).2.completeLookup k.ticket answer).1) ∧
        (¬ Discarded outcome.1 → ∀ node, answer = .ok node → ∃ role marker,
          gesture.role? made.active = some role ∧ outcome.1 = .ok (.applied marker) ∧
          marker.role = role ∧ marker.point = node.point ∧ marker.node = some node.id ∧
          outcome.2.marker role = some marker ∧
          outcome.2.marker role.other = later.2.marker role.other ∧
          outcome.2.route = later.2.route) := by
  intro made later history k hk handed_out
  obtain ⟨target, hrole, hticket, hmade⟩ := act_eq_lookup hk
  -- The history is what was before the gesture, its entry, and what was later.
  have hhistory : history =
      ((start surface settings).run before).1 ++ ⟨gesture, .lookup (.ok k)⟩ :: later.1 := by
    show ((start surface settings).run (before ++ gesture :: after)).1 = _
    rw [run_append, run_cons, ← hk]
  have htallied := run_tallied surface settings (before ++ gesture :: after)
  have hascending := run_ascending surface settings (before ++ gesture :: after)
  -- The ticket is current at the gesture, so that the entries since decide whether it still is.
  obtain ⟨hissued, hcurrent⟩ := run_current_iff (s := (made.act gesture).2) (n := k.ticket.seq)
    (by rw [hmade, hticket]; exact Nat.le_refl _) after
  rw [show (made.act gesture).2.selection.current = some k.ticket.seq by rw [hmade, hticket]; rfl,
    eq_self_iff_true, true_and] at hcurrent
  have hovertakes : (∀ e ∈ later.1, ¬ e.Overtakes k.ticket.seq) ↔
      (tickets (issued history)).getLast? = some k.ticket ∧
        ∀ e ∈ later.1, e.completes ≠ some (.lookup k.ticket) ∧ e.operation ≠ .reset := by
    rw [hhistory]
    refine forall_not_overtakes_iff rfl (hhistory ▸ htallied.lookups.made_nodup) ?_
    intro e he u hu
    rw [← hhistory]
    exact mem_tickets.2 (handed_out e (by rw [hhistory]; simp [he]) u hu)
  refine ⟨hascending.pairwise.imp (by rintro t u h rfl; exact Nat.lt_irrefl _ h),
    hascending.pairwise, fun answer => ⟨?_, ?_, ?_⟩⟩
  · rw [discarded_completeLookup_iff, not_not, ← hovertakes]
    exact hcurrent
  · intro hstale
    rw [discarded_completeLookup_iff] at hstale
    refine ⟨by rw [completeLookup_stale hstale], fun operations answer => ?_⟩
    rw [discarded_completeLookup_iff]
    exact fun h => hstale ((run_current_iff hissued operations).2.1 h).1
  · rintro hfresh node rfl
    rw [discarded_completeLookup_iff, not_not] at hfresh
    obtain ⟨hself, hother, hroute⟩ := later.2.placed_marker target node
    rw [completeLookup_ok hfresh, hticket]
    exact ⟨target.role, _, hrole, rfl, rfl, rfl, rfl, hself, hother, hroute⟩

/-- A click is followed by the late answer of another one, from before a reset, and by a click that
is refused. Neither overtakes it: whatever its answer is, it is not stale. -/
theorem lookup_latest_after_reset :
    let before : List Operation := [.beginClick 48.0 9.0, .reset]
    let gesture : Operation := .beginClick 48.1 9.2
    let after : List Operation := [
      .completeLookup ⟨1, .toggle .source⟩ (.ok ⟨⟨48.0, 9.0⟩, 7⟩),
      .beginClick 95.0 9.0]
    let made := ((start Layers.empty .default).run before).2
    let later := (made.act gesture).2.run after
    let history := ((start Layers.empty .default).run (before ++ gesture :: after)).1
    let k : Lookup := ⟨⟨2, .toggle .source⟩, ⟨48.1, 9.2⟩⟩
    (made.act gesture).1 = .lookup (.ok k) ∧
      (∀ e ∈ history, ∀ ticket, e.completes = some (.lookup ticket) →
        .lookup ticket ∈ issued history) ∧
      ∀ answer, ¬ Discarded (later.2.completeLookup k.ticket answer).1 := by
  intro before gesture after made later history k
  have hk : (made.act gesture).1 = .lookup (.ok k) := rfl
  have hissued : issued history = [.lookup ⟨1, .toggle .source⟩, .lookup k.ticket] := by decide
  have hcompletes : history.map Entry.completes =
      [none, none, none, some (.lookup ⟨1, .toggle .source⟩), none] := by decide
  have handed_out : ∀ e ∈ history, ∀ ticket, e.completes = some (.lookup ticket) →
      .lookup ticket ∈ issued history := by
    intro e he ticket hc
    have hmem : some (.lookup ticket) ∈ history.map Entry.completes :=
      hc ▸ List.mem_map_of_mem he
    rw [hcompletes] at hmem
    have hticket : ticket = ⟨1, .toggle .source⟩ := by simpa using hmem
    rw [hissued, hticket]
    exact List.mem_cons_self
  have hlater : ∀ e ∈ later.1, e.completes ≠ some (.lookup k.ticket) ∧ e.operation ≠ .reset := by
    simp [later, after, run_cons, run, Entry.completes, k]
  refine ⟨hk, handed_out, fun answer => ?_⟩
  have hlatest := lookup_latest Layers.empty .default before gesture after k hk handed_out
  exact (hlatest.2.2 answer).1.2 ⟨by rw [hissued]; rfl, hlater⟩

end Waymark.Session
