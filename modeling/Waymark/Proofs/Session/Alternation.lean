import Mathlib.Data.List.DropRight
import Mathlib.Data.List.Iterate
import Waymark.Proofs.Session.Latest

/-!
# Clicks take turns

A click takes with it the role that is active when it is made, and it makes the other role active
when its node is placed, which may be much later. Still clicks take turns, however many of them are
on their way at once. A gesture overtakes those before it, so that the active role stays as it is
while the ticket of a click counts, and the role that the click took with it is still the active one
when its node is placed. This is what `Alternating.captured` keeps through every history.

All this is said of histories in which answers come with tickets as they were handed out. A ticket
that was made up may carry any role.
-/

namespace Waymark.Session

namespace Entry

/-- The role of the marker that was placed for a click, if one was. -/
def clicked? : Entry → Option Role
  | ⟨.completeLookup ⟨_, .toggle _⟩ _, .marker (.ok (.applied m))⟩ => some m.role
  | _ => none

/-- Whether everything was removed by an entry. -/
def isReset : Entry → Bool
  | ⟨.reset, _⟩ => true
  | _ => false

end Entry

/-- What came in a history after the last reset, or all of it if there was none. -/
def sinceReset (history : List Entry) : List Entry := history.rtakeWhile fun e => !e.isReset

/-- The roles that clicks were given in a history, in order. -/
def clicked (history : List Entry) : List Role := history.filterMap Entry.clicked?

/-- Answers come with tickets as they were handed out: no other target comes with their numbers. -/
def Genuine (history : List Entry) : Prop :=
  ∀ e ∈ history, ∀ ticket, e.completes = some (.lookup ticket) →
    ∀ t, .lookup t ∈ issued history → t.seq = ticket.seq → t = ticket

/-- Since the last reset there is one more entry, unless that is a reset. -/
theorem sinceReset_concat {e : Entry} (he : e.isReset = false) (past : List Entry) :
    sinceReset (past ++ [e]) = sinceReset past ++ [e] :=
  List.rtakeWhile_concat_pos _ _ _ (by simp [he])

/-- There is nothing yet after a reset. -/
theorem sinceReset_concat_reset {e : Entry} (he : e.isReset = true) (past : List Entry) :
    sinceReset (past ++ [e]) = [] :=
  List.rtakeWhile_concat_neg _ _ _ (by simp [he])

/-- The opposite of the opposite end is the end itself. -/
theorem iterate_other (role : Role) (n : Nat) :
    Role.other^[n] role = if n % 2 = 0 then role else role.other := by
  induction n with
  | zero => rfl
  | succ n ih =>
    rw [Function.iterate_succ_apply', ih]
    rcases Nat.mod_two_eq_zero_or_one n with h | h
    · rw [if_pos h, if_neg (by omega)]
    · rw [if_neg (by omega), if_pos (by omega)]
      cases role <;> rfl

/-- What is handed out in a part of a history is handed out in all of it. -/
theorem issued_subset_concat (past : List Entry) (e : Entry) :
    issued past ⊆ issued (past ++ [e]) := by
  unfold issued
  rw [List.filterMap_append]
  exact List.subset_append_left _ _

/-- What is said of the answers of a history is said of those before the last entry. -/
theorem Genuine.of_concat {past : List Entry} {e : Entry} (h : Genuine (past ++ [e])) :
    Genuine past := fun d hd ticket hticket t ht =>
  h d (List.mem_append_left _ hd) ticket hticket t (issued_subset_concat past e ht)

variable {σ : Type}

/-- Clicks have taken turns in a history since the last reset, and will do so with the next one. -/
structure Alternating (past : List Entry) (s : Session σ) : Prop where
  /-- The first click since the last reset went to the first role, and they took turns. -/
  turns : clicked (sinceReset past) =
    List.iterate Role.other s.selection.first (clicked (sinceReset past)).length
  /-- It is the turn of the active role. -/
  active : s.active = Role.other^[(clicked (sinceReset past)).length] s.selection.first
  /-- The click whose ticket counts took with it the role that is active now. -/
  captured : ∀ seq role, .lookup ⟨seq, .toggle role⟩ ∈ issued past →
    s.selection.current = some seq → role = s.active

namespace Alternating

variable {s t : Session σ} {past : List Entry} {e : Entry}

/-- The turns stay as they are when no marker is placed for a click and nothing is reset. -/
theorem keep (h : Alternating past s) (hclicked : e.clicked? = none) (hreset : e.isReset = false)
    (hfirst : t.selection.first = s.selection.first) (hactive : t.active = s.active)
    (hcaptured : ∀ seq role, .lookup ⟨seq, .toggle role⟩ ∈ issued (past ++ [e]) →
      t.selection.current = some seq → role = s.active) : Alternating (past ++ [e]) t := by
  have hsame : clicked (sinceReset (past ++ [e])) = clicked (sinceReset past) := by
    rw [sinceReset_concat hreset]
    simp [clicked, hclicked]
  refine ⟨?_, ?_, ?_⟩
  · rw [hsame, hfirst]
    exact h.turns
  · rw [hsame, hfirst, hactive]
    exact h.active
  · rw [hactive]
    exact hcaptured

/-- The turns stay as they are when an entry hands out no ticket and leaves the selection alone. -/
theorem keep_of_selection (h : Alternating past s) (hclicked : e.clicked? = none)
    (hreset : e.isReset = false) (hissues : ∀ ticket, e.issues ≠ some (.lookup ticket))
    (hselection : t.selection = s.selection) : Alternating (past ++ [e]) t := by
  have hactive : t.active = s.active := congrArg Selection.active hselection
  refine h.keep hclicked hreset (by rw [hselection]) hactive fun seq role hmem hcurrent => ?_
  rw [hselection] at hcurrent
  refine h.captured seq role ?_ hcurrent
  -- It was handed out before, since the entry hands out no ticket.
  cases he : e.issues with
  | none => rwa [issued_concat_of_none he] at hmem
  | some r =>
    rw [issued_concat_of_some he, List.mem_append, List.mem_singleton] at hmem
    refine hmem.resolve_right ?_
    rintro rfl
    exact hissues _ he

/-- The turns stay as they are when a ticket is used up and no marker is placed for a click. -/
theorem keep_of_current (h : Alternating past s) (hclicked : e.clicked? = none)
    (hreset : e.isReset = false) (hfirst : t.selection.first = s.selection.first)
    (hactive : t.active = s.active) (hcurrent : t.selection.current = none) :
    Alternating (past ++ [e]) t := by
  refine h.keep hclicked hreset hfirst hactive fun seq role _ hseq => ?_
  rw [hcurrent] at hseq
  cases hseq

/-- A ticket that is handed out for a click takes the active role with it. -/
theorem ticketed (h : Alternating past s) (ht : s.Tallied past) {target : Target}
    (htarget : ∀ role, target = .toggle role → role = s.active) (hclicked : e.clicked? = none)
    (hreset : e.isReset = false)
    (he : e.issues = some (.lookup ⟨s.selection.issued + 1, target⟩)) :
    Alternating (past ++ [e]) (s.ticketed target) := by
  refine h.keep hclicked hreset rfl rfl fun seq role hmem hcurrent => ?_
  have hseq : s.selection.issued + 1 = seq := Option.some.inj hcurrent
  rw [issued_concat_of_some he, List.mem_append, List.mem_singleton] at hmem
  rcases hmem with hmem | hmem
  · -- All numbers so far are below the new one.
    have hle := (ht.lookups.number_mem (mem_tickets.2 hmem)).2
    rw [← ht.issued] at hle
    simp only at hle
    omega
  · cases hmem
    exact htarget role rfl

/-- A node that is placed for a click takes the turn of the active role. -/
theorem click (h : Alternating past s) (hreset : e.isReset = false)
    (hclicked : e.clicked? = some s.active) (hfirst : t.selection.first = s.selection.first)
    (hactive : t.active = s.active.other) (hcurrent : t.selection.current = none) :
    Alternating (past ++ [e]) t := by
  have hnext : clicked (sinceReset (past ++ [e])) = clicked (sinceReset past) ++ [s.active] := by
    rw [sinceReset_concat hreset]
    simp [clicked, hclicked]
  refine ⟨?_, ?_, ?_⟩
  · rw [hnext, hfirst, List.length_append, List.length_singleton, List.iterate_add, ← h.turns,
      ← h.active]
    rfl
  · rw [hnext, hfirst, List.length_append, List.length_singleton, Function.iterate_succ_apply',
      ← h.active]
    exact hactive
  · intro seq role _ hseq
    rw [hcurrent] at hseq
    cases hseq

/-- After a reset it is the turn of the first role. -/
theorem reset (hreset : e.isReset = true) (hactive : t.active = t.selection.first)
    (hcurrent : t.selection.current = none) : Alternating (past ++ [e]) t := by
  refine ⟨?_, ?_, ?_⟩
  · rw [sinceReset_concat_reset hreset]
    rfl
  · rw [sinceReset_concat_reset hreset]
    exact hactive
  · intro seq role _ hseq
    rw [hcurrent] at hseq
    cases hseq

end Alternating

variable [Surface σ]

/-- Clicks go on to take turns whatever is done about the route. -/
theorem Alternating.act_of_isRoute {s : Session σ} {past : List Entry} (h : Alternating past s)
    {operation : Operation} (hroute : operation.isRoute = true) :
    Alternating (past ++ [s.entry operation]) (s.act operation).2 := by
  have hissues : ∀ ticket, (s.entry operation).issues ≠ some (.lookup ticket) := fun ticket he =>
    s.not_overtakes_of_isRoute hroute 0 (.inl ⟨ticket, he⟩)
  refine h.keep_of_selection ?_ ?_ hissues (Session.act_of_isRoute s hroute).1
  · cases operation <;> first | rfl | cases hroute
  · cases operation <;> first | rfl | cases hroute

/-- Clicks go on to take turns with every operation, if no answer comes with a ticket that was made
up. -/
theorem Alternating.act {s : Session σ} {past : List Entry} (h : Alternating past s)
    (ht : s.Tallied past) (operation : Operation)
    (hgenuine : Genuine (past ++ [s.entry operation])) :
    Alternating (past ++ [s.entry operation]) (s.act operation).2 := by
  cases operation with
  | beginClick lat lng =>
    rcases s.beginClick_cases lat lng with ⟨fault, -, hs⟩ | ⟨point, -, hs⟩ <;>
      simp only [entry, Session.act, hs]
    · exact h.keep_of_selection rfl rfl (by rintro _ ⟨⟩) rfl
    · exact h.ticketed ht (by rintro role ⟨⟩; rfl) rfl rfl rfl
  | beginSubmit role lat lng =>
    rcases s.beginSubmit_cases role lat lng with ⟨fault, -, hs⟩ | ⟨point, -, hs⟩ <;>
      simp only [entry, Session.act, hs]
    · exact h.keep_of_selection rfl rfl (by rintro _ ⟨⟩) rfl
    · exact h.ticketed ht (by rintro role ⟨⟩) rfl rfl rfl
  | completeLookup ticket answer =>
    rcases s.completeLookup_cases ticket answer with
      ⟨-, hs⟩ | ⟨hc, ⟨e, -, hs⟩ | ⟨node, -, hs⟩⟩
    · simp only [entry, Session.act, hs]
      exact h.keep_of_selection (by obtain ⟨seq, role | role⟩ := ticket <;> rfl) rfl
        (by rintro _ ⟨⟩) rfl
    · simp only [entry, Session.act, hs]
      exact h.keep_of_current (by obtain ⟨seq, role | role⟩ := ticket <;> rfl) rfl rfl rfl rfl
    · -- The ticket that counts was handed out, and the answer comes with it as it was.
      obtain ⟨-, u, hu, hseq⟩ := ht.lookups.current _ hc
      have hissued := mem_tickets.1 (ht.lookups.sublist.subset hu)
      obtain rfl : u = ticket := hgenuine _ (List.mem_append_right _ List.mem_cons_self) ticket rfl
        u (issued_subset_concat past _ hissued) hseq
      obtain ⟨seq, role | role⟩ := u
      · obtain rfl : role = s.active := h.captured seq role hissued hc
        simp only [entry, Session.act, hs]
        exact h.click rfl rfl rfl rfl rfl
      · simp only [entry, Session.act, hs]
        exact h.keep_of_current rfl rfl rfl rfl rfl
  | beginRoute | completeRoute | showRoute | showPayload | clearRoute =>
    exact h.act_of_isRoute rfl
  | reset => exact .reset rfl rfl rfl

/-- Clicks take turns in every history in which no answer comes with a ticket that was made up. -/
theorem run_alternating (surface : σ) (settings : Settings) (operations : List Operation)
    (hgenuine : Genuine ((start surface settings).run operations).1) :
    Alternating ((start surface settings).run operations).1
      ((start surface settings).run operations).2 := by
  refine (run_induction (s := start surface settings)
    (P := fun past s => s.Tallied past ∧ (Genuine past → Alternating past s)) ?_ operations []
    ?_).2 hgenuine
  · rintro past s operation ⟨ht, h⟩
    exact ⟨ht.act operation, fun hg => (h hg.of_concat).act ht operation hg⟩
  · exact ⟨⟨rfl, rfl, .nil, .nil⟩, fun _ => ⟨rfl, rfl, by rintro _ _ ⟨⟩⟩⟩

/-- Only a click whose node is placed and a reset change the active role. -/
theorem act_active {s : Session σ} {operation : Operation}
    (hclicked : (s.entry operation).clicked? = none) (hreset : operation ≠ .reset) :
    (s.act operation).2.active = s.active := by
  cases operation with
  | beginClick lat lng =>
    rcases s.beginClick_cases lat lng with ⟨fault, -, hs⟩ | ⟨point, -, hs⟩ <;>
      simp only [act, hs] <;> rfl
  | beginSubmit role lat lng =>
    rcases s.beginSubmit_cases role lat lng with ⟨fault, -, hs⟩ | ⟨point, -, hs⟩ <;>
      simp only [act, hs] <;> rfl
  | completeLookup ticket answer =>
    rcases s.completeLookup_cases ticket answer with
      ⟨-, hs⟩ | ⟨-, ⟨e, -, hs⟩ | ⟨node, -, hs⟩⟩
    · simp only [act, hs]
      rfl
    · simp only [act, hs]
      rfl
    · obtain ⟨seq, role | role⟩ := ticket
      · -- The node of a click is placed, which is ruled out.
        simp only [entry, act, hs] at hclicked
        cases hclicked
      · simp only [act, hs]
        rfl
  | beginRoute | completeRoute | showRoute | showPayload | clearRoute =>
    exact congrArg Selection.active (s.act_of_isRoute rfl).1
  | reset => exact absurd rfl hreset

omit [Surface σ] in
/-- Answers that come with tickets that were handed out come with them as they were. -/
theorem Tallied.genuine {s : Session σ} {history : List Entry} (h : s.Tallied history)
    (handed_out : ∀ e ∈ history, ∀ ticket, e.completes = some (.lookup ticket) →
      .lookup ticket ∈ Session.issued history) : Genuine history := by
  intro e he ticket hticket t ht hseq
  have hmem := mem_tickets.2 (handed_out e he ticket hticket)
  exact List.inj_on_of_nodup_map h.lookups.made_nodup (mem_tickets.2 ht) hmem hseq

/-- After any operations of a new session, where answers come only with tickets that were handed out:
the active role is the first one if an even number of nodes was placed for clicks since the last
reset, and the other one if an odd number was; these nodes were given to the first role, to the
other one, and so on in turn, however many clicks were on their way at once; the click whose ticket
counts took with it the role that is active now; and no operation but a reset and the answer by which
a node is placed for a click will change that role. -/
theorem clicks_alternate (surface : σ) (settings : Settings) (operations : List Operation) :
    let history := ((start surface settings).run operations).1
    let s := ((start surface settings).run operations).2
    let clicks := clicked (sinceReset history)
    (∀ e ∈ history, ∀ ticket, e.completes = some (.lookup ticket) →
      .lookup ticket ∈ issued history) →
    s.active = (if clicks.length % 2 = 0 then settings.firstRole else settings.firstRole.other) ∧
    clicks = List.iterate Role.other settings.firstRole clicks.length ∧
    (∀ seq role, .lookup ⟨seq, .toggle role⟩ ∈ issued history →
      s.selection.current = some seq → role = s.active) ∧
    ∀ operation, (s.entry operation).clicked? = none → operation ≠ .reset →
      (s.act operation).2.active = s.active := by
  intro history s clicks handed_out
  have htallied : s.Tallied history := run_tallied surface settings operations
  have h : Alternating history s := run_alternating surface settings operations
    (htallied.genuine handed_out)
  have hfirst : s.selection.first = settings.firstRole :=
    (run_sameSettings (start surface settings) operations).first
  refine ⟨?_, ?_, h.captured, fun operation => act_active⟩
  · rw [h.active, hfirst, iterate_other]
  · rw [← hfirst]
    exact h.turns

/-- Two clicks are on their way at once, and the answers come in the wrong order; then a node is
placed for a form entry, and there is another click. One node was placed for a click, and the last
click is for the other role. -/
theorem clicks_alternate_overlapping :
    let operations : List Operation := [.beginClick 48.0 9.0, .beginClick 48.1 9.2,
      .completeLookup ⟨2, .toggle .source⟩ (.ok ⟨⟨48.1, 9.2⟩, 8⟩),
      .completeLookup ⟨1, .toggle .source⟩ (.ok ⟨⟨48.0, 9.0⟩, 7⟩),
      .beginSubmit .source "48.2" "9.1",
      .completeLookup ⟨3, .manual .source⟩ (.ok ⟨⟨48.2, 9.1⟩, 9⟩), .beginClick 48.3 9.3]
    let history := ((start Layers.empty .default).run operations).1
    let s := ((start Layers.empty .default).run operations).2
    (∀ e ∈ history, ∀ ticket, e.completes = some (.lookup ticket) →
      .lookup ticket ∈ issued history) ∧
    clicked (sinceReset history) = [.source] ∧ s.active = .destination ∧
    (∀ role, .lookup ⟨4, .toggle role⟩ ∈ issued history → role = .destination) := by
  intro operations history s
  have hissued : issued history = [.lookup ⟨1, .toggle .source⟩, .lookup ⟨2, .toggle .source⟩,
      .lookup ⟨3, .manual .source⟩, .lookup ⟨4, .toggle .destination⟩] := by decide +kernel
  have hcompletes : history.map Entry.completes = [none, none,
      some (.lookup ⟨2, .toggle .source⟩), some (.lookup ⟨1, .toggle .source⟩), none,
      some (.lookup ⟨3, .manual .source⟩), none] := by decide +kernel
  have handed_out : ∀ e ∈ history, ∀ ticket, e.completes = some (.lookup ticket) →
      .lookup ticket ∈ issued history := by
    intro e he ticket hticket
    have hmem : some (.lookup ticket) ∈ history.map Entry.completes :=
      hticket ▸ List.mem_map_of_mem he
    rw [hcompletes] at hmem
    have hanswered : ticket = ⟨2, .toggle .source⟩ ∨ ticket = ⟨1, .toggle .source⟩ ∨
        ticket = ⟨3, .manual .source⟩ := by simpa using hmem
    rw [hissued]
    rcases hanswered with rfl | rfl | rfl <;> simp
  have hclicks : clicked (sinceReset history) = [.source] := by decide +kernel
  obtain ⟨hactive, -, hcaptured, -⟩ := clicks_alternate Layers.empty .default operations handed_out
  have hdestination : s.active = .destination := by
    rw [hactive, hclicks]
    rfl
  refine ⟨handed_out, hclicks, hdestination, fun role hrole => ?_⟩
  rw [← hdestination]
  exact hcaptured 4 role hrole (by decide +kernel)

end Waymark.Session
