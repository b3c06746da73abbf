import Mathlib.Data.List.DropRight
import Mathlib.Data.List.Induction
import Mathlib.Data.List.Nodup
import Waymark.Proofs.Session.Effects

/-!
# What a selection has gone through

A selection is asked for anything in any order: nodes are given to roles with tickets and without,
tickets are issued for any target, and they come back late, twice, or made up. What was asked and
answered is its history, and the selection is what the history makes of it (`Told`): the active role
is the opposite of the last one that took its turn since the last reset, tickets are numbered from
one on through resets and all, and the ticket that counts is the last one, as long as nothing took
it back. This is kept by every operation (`Told.act`) and hence by all of them
(`history_decides`).
-/

namespace Waymark.Selection

/-- What a selection is asked for. -/
inductive Operation where
  /-- To give a node to the active role. -/
  | resolve (node : Node)
  /-- To give a node to a role of choice. -/
  | assign (role : Role) (node : Node)
  /-- To issue a ticket for a target. -/
  | issue (target : Target)
  /-- To issue a ticket for a click. -/
  | issueToggle
  /-- To issue a ticket for a form entry. -/
  | issueManual (role : Role)
  /-- To give a node the role of a ticket. -/
  | apply (ticket : Ticket) (node : Node)
  /-- To take back the current ticket. -/
  | invalidate
  /-- To go back to the first role. -/
  | reset

/-- Whether an operation issues a ticket. -/
def Operation.issues : Operation → Bool
  | .issue _ | .issueToggle | .issueManual _ => true
  | .resolve _ | .assign _ _ | .apply _ _ | .invalidate | .reset => false

/-- What a selection answers. -/
inductive Response where
  /-- The role that a node was given. -/
  | assigned (assignment : Assignment)
  /-- The ticket that was issued. -/
  | issued (ticket : Ticket)
  /-- The role that a node was given with a ticket, if the ticket was current. -/
  | applied (assignment? : Option Assignment)
  /-- Nothing, since nothing is asked. -/
  | done

/-- An operation and what the selection answered. -/
structure Entry where
  /-- The operation. -/
  operation : Operation
  /-- The answer. -/
  response : Response

namespace Entry

/-- The ticket that was issued, if one was. -/
def ticket? : Entry → Option Ticket
  | ⟨_, .issued ticket⟩ => some ticket
  | _ => none

/-- The role that took its turn, if one did: that which a node was given without a ticket, or that
which the ticket of a click carries. -/
def toggled? : Entry → Option Role
  | ⟨.resolve _, .assigned assignment⟩ => some assignment.role
  | ⟨.apply ⟨_, .toggle role⟩ _, .applied (some _)⟩ => some role
  | _ => none

/-- Whether the first role was made active again. -/
def isReset : Entry → Bool
  | ⟨.reset, _⟩ => true
  | _ => false

/-- Whether the ticket of a number is taken back, if it is current: a ticket with this number was to
be applied, or no ticket is current any more. -/
def TakesBack (n : Nat) : Entry → Prop
  | ⟨.apply ticket _, _⟩ => ticket.seq = n
  | ⟨.invalidate, _⟩ | ⟨.reset, _⟩ => True
  | _ => False

end Entry

/-- The tickets that were issued in a history, in order. -/
def tickets (history : List Entry) : List Ticket := history.filterMap Entry.ticket?

/-- What came in a history after the last reset, or all of it if there was none. -/
def sinceReset (history : List Entry) : List Entry := history.rtakeWhile fun e => !e.isReset

/-- What came in a history after the last ticket was issued, or all of it if none was. -/
def sinceIssue (history : List Entry) : List Entry := history.rtakeWhile fun e => e.ticket?.isNone

/-- The last role that took its turn since the last reset. -/
def lastToggled? (history : List Entry) : Option Role :=
  ((sinceReset history).filterMap Entry.toggled?).getLast?

/-- A ticket is the last one that was issued in a history, and nothing took it back since. -/
structure Standing (history : List Entry) (ticket : Ticket) : Prop where
  /-- It is the last one. -/
  last : (tickets history).getLast? = some ticket
  /-- Nothing that came after it took it back. -/
  kept : ∀ e ∈ sinceIssue history, ¬ e.TakesBack ticket.seq

/-- A selection goes through an operation. -/
def act (s : Selection) : Operation → Response × Selection
  | .resolve node => (s.resolve node).map .assigned id
  | .assign role node => (s.assign role node).map .assigned id
  | .issue target => (s.issue target).map .issued id
  | .issueToggle => s.issueToggle.map .issued id
  | .issueManual role => (s.issueManual role).map .issued id
  | .apply ticket node => (s.apply ticket node).map .applied id
  | .invalidate => (.done, s.invalidate)
  | .reset => (.done, s.reset)

/-- What a selection answers to an operation, with the operation. -/
def entry (s : Selection) (operation : Operation) : Entry := ⟨operation, (s.act operation).1⟩

/-- A selection goes through some operations, one after the other, and its history grows. -/
def run (s : Selection) (operations : List Operation) : List Entry × Selection :=
  operations.foldl
    (fun h operation => (h.1 ++ [h.2.entry operation], (h.2.act operation).2)) ([], s)

/-- One more operation is one more entry of the history. -/
theorem run_concat (s : Selection) (operations : List Operation) (operation : Operation) :
    s.run (operations ++ [operation]) =
      ((s.run operations).1 ++ [(s.run operations).2.entry operation],
        ((s.run operations).2.act operation).2) := by
  unfold run
  rw [List.foldl_append]
  rfl

/-! ### One more entry -/

section Concat

variable {e : Entry} {past : List Entry}

/-- The tickets after an entry that issues one. -/
theorem tickets_concat_of_some {ticket : Ticket} (he : e.ticket? = some ticket) :
    tickets (past ++ [e]) = tickets past ++ [ticket] := by
  simp [tickets, he]

/-- The tickets after an entry that issues none. -/
theorem tickets_concat_of_none (he : e.ticket? = none) : tickets (past ++ [e]) = tickets past := by
  simp [tickets, he]

/-- The role that took its turn last is that of the entry, if one did in it, and there is none right
after a reset. -/
theorem lastToggled?_concat : lastToggled? (past ++ [e]) =
    if e.isReset then none else e.toggled?.or (lastToggled? past) := by
  unfold lastToggled? sinceReset
  cases hreset : e.isReset with
  | true =>
    rw [List.rtakeWhile_concat_neg _ _ _ (by simp [hreset])]
    rfl
  | false =>
    rw [List.rtakeWhile_concat_pos _ _ _ (by simp [hreset]), List.filterMap_append,
      List.getLast?_append]
    cases htoggled : e.toggled? <;> simp [htoggled]

/-- A ticket that is issued stands. -/
theorem standing_concat_of_some {ticket t : Ticket} (he : e.ticket? = some ticket) :
    Standing (past ++ [e]) t ↔ t = ticket := by
  have hsince : sinceIssue (past ++ [e]) = [] := List.rtakeWhile_concat_neg _ _ _ (by simp [he])
  have hlast : (tickets (past ++ [e])).getLast? = some ticket := by
    rw [tickets_concat_of_some he, List.getLast?_concat]
  constructor
  · rintro ⟨hlast', -⟩
    exact Option.some.inj (hlast'.symm.trans hlast)
  · rintro rfl
    exact ⟨hlast, by simp [hsince]⟩

/-- A ticket stands after an entry that issues none if it stood before and is not taken back. -/
theorem standing_concat_of_none {t : Ticket} (he : e.ticket? = none) :
    Standing (past ++ [e]) t ↔ Standing past t ∧ ¬ e.TakesBack t.seq := by
  have hsince : sinceIssue (past ++ [e]) = sinceIssue past ++ [e] :=
    List.rtakeWhile_concat_pos _ _ _ (by simp [he])
  have htickets : tickets (past ++ [e]) = tickets past := tickets_concat_of_none he
  constructor
  · rintro ⟨hlast, hkept⟩
    rw [htickets] at hlast
    rw [hsince, List.forall_mem_append] at hkept
    exact ⟨⟨hlast, hkept.1⟩, hkept.2 e List.mem_cons_self⟩
  · rintro ⟨⟨hlast, hkept⟩, hnot⟩
    refine ⟨by rw [htickets, hlast], ?_⟩
    rw [hsince, List.forall_mem_append, List.forall_mem_singleton]
    exact ⟨hkept, hnot⟩

end Concat

/-! ### What the history makes of a selection -/

/-- A ticket that is not current is not applied, and nothing changes. -/
theorem apply_of_not_current {s : Selection} {ticket : Ticket} (h : s.current ≠ some ticket.seq)
    (node : Node) : s.apply ticket node = (none, s) :=
  if_neg fun hc => h ((isCurrent_iff s ticket).1 hc)

/-- A selection is what its history makes of it, from its first role on. -/
structure Told (firstRole : Role) (history : List Entry) (s : Selection) : Prop where
  /-- The first role stays what it was. -/
  first : s.first = firstRole
  /-- The active role is the opposite of the one that took its turn last, or the first role. -/
  active : s.active = (lastToggled? history).elim firstRole Role.other
  /-- The tickets are numbered from one on. -/
  numbers : (tickets history).map (·.seq) = List.range' 1 s.issued
  /-- The current number is that of the ticket that stands. -/
  current : ∀ n, s.current = some n ↔ ∃ ticket, Standing history ticket ∧ ticket.seq = n

namespace Told

variable {firstRole : Role} {past : List Entry} {s t : Selection} {e : Entry}

/-- Nothing has happened to a selection at its start. -/
theorem start (firstRole : Role) : Told firstRole [] (start firstRole) := by
  refine ⟨rfl, rfl, rfl, fun n => ⟨nofun, ?_⟩⟩
  rintro ⟨ticket, ⟨hlast, -⟩, -⟩
  cases hlast

/-- A ticket that is issued gets the next number, which is current from then on. -/
theorem issue (h : Told firstRole past s) (target : Target) (hreset : e.isReset = false)
    (htoggled : e.toggled? = none) (he : e.ticket? = some (s.issue target).1) :
    Told firstRole (past ++ [e]) (s.issue target).2 := by
  refine ⟨h.first, ?_, ?_, fun n => ?_⟩
  · rw [lastToggled?_concat, hreset, htoggled]
    exact h.active
  · rw [tickets_concat_of_some he, List.map_append, h.numbers]
    show _ = List.range' 1 (s.issued + 1)
    rw [List.range'_1_concat, Nat.add_comm]
    rfl
  · simp only [standing_concat_of_some he, exists_eq_left]
    exact Option.some_inj

/-- After an operation that issues no ticket, a number is current if it was so before and is not
taken back. -/
theorem concat (h : Told firstRole past s) (he : e.ticket? = none) (hfirst : t.first = s.first)
    (hissued : t.issued = s.issued)
    (hactive : t.active = if e.isReset then s.first else e.toggled?.elim s.active Role.other)
    (hcurrent : ∀ n, t.current = some n ↔ s.current = some n ∧ ¬ e.TakesBack n) :
    Told firstRole (past ++ [e]) t := by
  refine ⟨hfirst.trans h.first, ?_, ?_, fun n => ?_⟩
  · rw [hactive, lastToggled?_concat, h.first, h.active]
    cases e.isReset <;> cases e.toggled? <;> rfl
  · rw [tickets_concat_of_none he, h.numbers, hissued]
  · rw [hcurrent, h.current]
    constructor
    · rintro ⟨⟨ticket, hstanding, rfl⟩, hnot⟩
      exact ⟨ticket, (standing_concat_of_none he).2 ⟨hstanding, hnot⟩, rfl⟩
    · rintro ⟨ticket, hstanding, rfl⟩
      obtain ⟨hstood, hnot⟩ := (standing_concat_of_none he).1 hstanding
      exact ⟨⟨ticket, hstood, rfl⟩, hnot⟩

/-- A ticket that comes back takes itself back. If it is current, and that of a click, its role
takes its turn; if it is not current, nothing happens. -/
theorem apply (h : Told firstRole past s) (ticket : Ticket) (node : Node) :
    Told firstRole (past ++ [s.entry (.apply ticket node)]) (s.apply ticket node).2 := by
  by_cases hc : s.current = some ticket.seq
  · have happly := apply_of_current hc node
    simp only [entry, act, happly]
    obtain ⟨seq, role | role⟩ := ticket
    all_goals
      refine h.concat rfl rfl rfl rfl fun n => ?_
      -- The number that was current is the one that is taken back.
      simp [hc, spend, Entry.TakesBack]
  · have happly := apply_of_not_current hc node
    simp only [entry, act, happly]
    refine h.concat rfl rfl rfl ?_ fun n => ?_
    · obtain ⟨seq, role | role⟩ := ticket <;> rfl
    · show _ ↔ _ ∧ ¬ ticket.seq = n
      refine ⟨fun hcurrent => ⟨hcurrent, ?_⟩, And.left⟩
      rintro rfl
      exact hc hcurrent

/-- A selection is what its history makes of it after one more operation. -/
theorem act (h : Told firstRole past s) (operation : Operation) :
    Told firstRole (past ++ [s.entry operation]) (s.act operation).2 := by
  cases operation with
  | resolve node => exact h.concat rfl rfl rfl rfl fun n => (and_iff_left not_false).symm
  | assign role node => exact h.concat rfl rfl rfl rfl fun n => (and_iff_left not_false).symm
  | issue target => exact h.issue target rfl rfl rfl
  | issueToggle => exact h.issue (.toggle s.active) rfl rfl rfl
  | issueManual role => exact h.issue (.manual role) rfl rfl rfl
  | apply ticket node => exact h.apply ticket node
  | invalidate =>
    refine h.concat rfl rfl rfl rfl fun n => ?_
    simp [Selection.act, invalidate, entry, Entry.TakesBack]
  | reset =>
    refine h.concat rfl rfl rfl rfl fun n => ?_
    simp [Selection.act, reset, invalidate, entry, Entry.TakesBack]

/-- A selection is what its history makes of it after any operations. -/
theorem run (firstRole : Role) (operations : List Operation) :
    Told firstRole ((Selection.start firstRole).run operations).1
      ((Selection.start firstRole).run operations).2 := by
  induction operations using List.reverseRecOn with
  | nil => exact start firstRole
  | append_singleton operations operation ih =>
    rw [run_concat]
    exact ih.act operation

/-- No two tickets have the same number. -/
theorem eq_of_seq_eq (h : Told firstRole past s) {ticket ticket' : Ticket}
    (hticket : ticket ∈ tickets past) (hticket' : ticket' ∈ tickets past)
    (hseq : ticket.seq = ticket'.seq) : ticket = ticket' := by
  have hnodup : ((tickets past).map (·.seq)).Nodup := by
    rw [h.numbers]
    exact List.nodup_range'
  exact List.inj_on_of_nodup_map hnodup hticket hticket' hseq

/-- Of the tickets that were issued, the current one is the one that stands. -/
theorem isCurrent_iff_standing (h : Told firstRole past s) {ticket : Ticket}
    (hticket : ticket ∈ tickets past) : s.isCurrent ticket = true ↔ Standing past ticket := by
  rw [isCurrent_iff, h.current]
  constructor
  · rintro ⟨ticket', hstanding, hseq⟩
    -- A ticket that is made up may share the number of one that was issued, but no two of these do.
    have hmem := List.mem_of_getLast? hstanding.last
    rwa [h.eq_of_seq_eq hticket hmem hseq.symm]
  · exact fun hstanding => ⟨ticket, hstanding, rfl⟩

end Told

/-- As many tickets are issued as are asked for. -/
theorem issued_run (firstRole : Role) (operations : List Operation) :
    ((start firstRole).run operations).2.issued = operations.countP Operation.issues := by
  induction operations using List.reverseRecOn with
  | nil => rfl
  | append_singleton operations operation ih =>
    rw [run_concat, List.countP_append, ← ih]
    cases operation with
    | apply ticket node =>
      by_cases hc : ((start firstRole).run operations).2.current = some ticket.seq
      · simp [act, apply_of_current hc, Operation.issues]
      · simp [act, apply_of_not_current hc, Operation.issues]
    | resolve | assign | issue | issueToggle | issueManual | invalidate | reset => rfl

/-- A selection is asked for any operations, tickets that are late or made up included. Then the
active role is the opposite of the role of the last node since the last reset that was given one
without a ticket, which is the active role, or with the ticket of a click, which is the role that
the ticket carries; it is the first role if there was no such node. The tickets that were issued
have the numbers one, two, three and so on, through resets and all, and a counter that holds as many
as were asked for never runs over. Of these tickets, exactly the last one is current, and only while
no ticket of its number was to be applied since then, no ticket was taken back and nothing was
reset. A ticket that is not applied changes nothing. -/
theorem history_decides (firstRole : Role) (operations : List Operation) :
    let history := ((start firstRole).run operations).1
    let s := ((start firstRole).run operations).2
    (s.active = (lastToggled? history).elim firstRole Role.other ∧
      ∀ node, (s.resolve node).1.role = s.active) ∧
    ((tickets history).map (·.seq) = List.range' 1 (operations.countP Operation.issues) ∧
      s.issued = operations.countP Operation.issues) ∧
    (∀ ticket ∈ tickets history, s.isCurrent ticket = true ↔ Standing history ticket) ∧
    (∀ ticket ∈ tickets history, ∀ ticket' ∈ tickets history, s.isCurrent ticket = true →
      s.isCurrent ticket' = true → ticket = ticket') ∧
    ∀ ticket node,
      (∀ assignment, (s.apply ticket node).1 = some assignment →
        assignment.role = ticket.target.role) ∧
      ((s.apply ticket node).1 = none → (s.apply ticket node).2 = s) := by
  intro history s
  have h : Told firstRole history s := Told.run firstRole operations
  have hissued : s.issued = operations.countP Operation.issues := issued_run firstRole operations
  refine ⟨⟨h.active, fun node => rfl⟩, ⟨by rw [h.numbers, hissued], hissued⟩,
    fun ticket => h.isCurrent_iff_standing, ?_, fun ticket node => ?_⟩
  · intro ticket hticket ticket' hticket' hc hc'
    have hseq : some ticket.seq = some ticket'.seq :=
      ((isCurrent_iff s ticket).1 hc).symm.trans ((isCurrent_iff s ticket').1 hc')
    exact h.eq_of_seq_eq hticket hticket' (Option.some.inj hseq)
  · by_cases hc : s.current = some ticket.seq
    · rw [apply_of_current hc]
      refine ⟨?_, nofun⟩
      rintro _ ⟨⟩
      rfl
    · rw [apply_of_not_current hc]
      exact ⟨nofun, fun _ => rfl⟩

/-- The active role moves on before the ticket of a click comes back, a ticket comes back with
another role than it was issued for, and one comes back after a reset. -/
theorem history_decides_made_up :
    let node : Node := ⟨⟨48.0, 9.0⟩, 7⟩
    let operations : List Operation := [.issueToggle, .resolve node,
      .apply ⟨1, .toggle .source⟩ node, .issueManual .source, .reset,
      .apply ⟨2, .manual .source⟩ node, .issue (.toggle .source),
      .apply ⟨3, .toggle .destination⟩ node, .apply ⟨3, .toggle .source⟩ node, .issueToggle]
    let history := ((start .source).run operations).1
    let s := ((start .source).run operations).2
    lastToggled? history = some .destination ∧ s.active = .source ∧
    (tickets history).map (·.seq) = [1, 2, 3, 4] ∧
    Standing history ⟨4, .toggle .source⟩ ∧
    (∀ ticket ∈ tickets history, s.isCurrent ticket = true → ticket = ⟨4, .toggle .source⟩) ∧
    (s.apply ⟨3, .toggle .source⟩ node).2 = s := by
  intro node operations history s
  obtain ⟨⟨hactive, -⟩, ⟨hnumbers, -⟩, hstanding, hone, happly⟩ :=
    history_decides .source operations
  have hlast : lastToggled? history = some .destination := by decide
  have hmem : ⟨4, .toggle .source⟩ ∈ tickets history := by decide
  have hcurrent : s.isCurrent ⟨4, .toggle .source⟩ = true := by decide
  refine ⟨hlast, ?_, hnumbers, (hstanding _ hmem).1 hcurrent,
    fun ticket hticket hc => hone ticket hticket _ hmem hc hcurrent, (happly _ node).2 (by rfl)⟩
  rw [show s.active = _ from hactive, hlast]
  rfl

end Waymark.Selection
