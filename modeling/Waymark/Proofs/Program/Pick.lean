import Waymark.Program.Pick
import Waymark.Proofs.Loop.Replay

/-!
# Gestures that are waited for

The command `pick` waits after every gesture, so what it reports are the failures of its gestures as
if each were made at once. The same is true of every client that waits after every command, whatever
the loop, the resolver and the client do first.
-/

namespace Waymark.Program

section Effects

variable {ω ε α β : Type}

/-- What follows on something that succeeds. -/
theorem run_bind_of_ok {x : ExceptT ε (StateM ω) α} {w w' : ω} {a : α}
    (h : x.run.run w = (.ok a, w')) (f : α → ExceptT ε (StateM ω) β) :
    (x >>= f).run.run w = (f a).run.run w' := by
  rw [ExceptT.run_bind, StateT.run_bind, h]
  rfl

/-- Nothing follows on something that fails. -/
theorem run_bind_of_error {x : ExceptT ε (StateM ω) α} {w w' : ω} {e : ε}
    (h : x.run.run w = (.error e, w')) (f : α → ExceptT ε (StateM ω) β) :
    (x >>= f).run.run w = (.error e, w') := by
  rw [ExceptT.run_bind, StateT.run_bind, h]
  rfl

/-- What ends well has come through what it follows on. -/
theorem exists_of_run_bind {x : ExceptT ε (StateM ω) α} {f : α → ExceptT ε (StateM ω) β} {w w' : ω}
    {b : β} (h : (x >>= f).run.run w = (.ok b, w')) :
    ∃ a w₁, x.run.run w = (.ok a, w₁) ∧ (f a).run.run w₁ = (.ok b, w') := by
  rcases hx : x.run.run w with ⟨e | a, w₁⟩
  · rw [run_bind_of_error hx] at h
    cases h
  · rw [run_bind_of_ok hx] at h
    exact ⟨a, w₁, rfl, h⟩

/-- What follows on something that cannot fail. -/
theorem run_bind_lift (x : StateM ω α) (f : α → ExceptT ε (StateM ω) β) (w : ω) :
    (ExceptT.lift x >>= f).run.run w = (f (x.run w).1).run.run (x.run w).2 := rfl

/-- What is decided changes no state. -/
theorem run_ofExcept (x : Except ε α) (w : ω) :
    (MonadExcept.ofExcept x : ExceptT ε (StateM ω) α).run.run w = (x, w) := by
  cases x <;> rfl

end Effects

/-- There is one notice for each command that failed. -/
theorem length_noticesOf (results : List Result) :
    (noticesOf (results.filterMap Result.event?)).length = results.countP Result.failed := by
  have hone : ∀ result : Result,
      (noticesOf result.event?.toList).length = if result.failed then 1 else 0 := by
    intro result
    cases result with
    | marker outcome => rcases outcome with fault | marker | seq <;> rfl
    | route outcome => rcases outcome with fault | g | seq <;> rfl
    | shown outcome => cases outcome <;> rfl
    | cleared | reset | waited => rfl
  induction results with
  | nil => rfl
  | cons result rest ih =>
    rw [Result.filterMap_event?_cons, List.countP_cons, ← ih, ← hone, Nat.add_comm,
      ← List.length_append]
    exact congrArg List.length List.filterMap_append

variable {ω : Type}

/-- The gestures of some arguments, and the request for a route if there is one. -/
def replayed (o : PickOptions) (commands : List Command) : List Command :=
  commands ++ if o.route then [.calcRoute] else []

/-- What `pick` reports in the end is how many notices its replay left. -/
theorem run_pick (host : Host (StateM ω)) (o : PickOptions) {w w' : ω} {format : Format}
    {settings : Settings} {commands : List Command}
    (hformat : Format.read (o.format.getD "geojson") = .ok format)
    (hsettings : (pickSettings host o).run.run w = (.ok settings, w'))
    (hgestures : gestures o = .ok commands) (hne : commands ≠ []) :
    let resolver := (Service.ofSettings settings).resolver host.exchange
    let loop := Loop.start (Session.start Layers.empty settings)
    ((pick host o).run.run w).1 =
      outcome (noticesOf ((loop.replay resolver (replayed o commands)).run w').1.1).length := by
  intro resolver loop
  have hempty : ¬ commands.isEmpty = true := by simpa using hne
  unfold pick
  simp only [hformat, hgestures, pure_bind]
  rw [run_bind_of_ok hsettings, if_neg hempty, run_bind_lift, run_bind_lift]
  exact congrArg Prod.fst (run_ofExcept _ _)

/-- What `pick` reports in the end is how many of its gestures fail when each is made at once. -/
theorem run_pick_eq (host : Host (StateM ω)) (o : PickOptions) {w w' : ω} {format : Format}
    {settings : Settings} {commands : List Command}
    (hformat : Format.read (o.format.getD "geojson") = .ok format)
    (hsettings : (pickSettings host o).run.run w = (.ok settings, w'))
    (hgestures : gestures o = .ok commands) (hne : commands ≠ []) :
    let resolver := (Service.ofSettings settings).resolver host.exchange
    let session := Session.start Layers.empty settings
    ((pick host o).run.run w).1 =
      outcome (((session.obeyAll resolver (replayed o commands)).run w').1.1.countP
        Result.failed) := by
  intro resolver session
  have hreplay := congrArg (fun x : StateM ω _ => (x.run w').1.1)
    (Loop.replay_eq (l := .start session) rfl rfl resolver (replayed o commands))
  rw [run_pick host o hformat hsettings hgestures hne, ← length_noticesOf]
  exact congrArg (fun events => outcome (noticesOf events).length) hreplay

/-- A client gives a loop some commands about the session and waits after each of them until no task
is left, with any resolver. Whatever happens first, the conversation ends, and not before the last
command is done; then the session is as if each command had been done at once and waited for, one
event for each command tells what came of it, and no event tells of an answer that came too late.
In particular, `pick` fails exactly when some of its gestures do, with their number, if each is made
at once, and the request for the route among them if there is one; and so would it with any other
conversation about its gestures. -/
theorem awaited_as_direct {σ τ : Type} [Surface σ] :
    (∀ (r : Resolver (StateM τ)) (s : Session σ) (w : τ) (commands : List Command),
      (∀ c ∈ commands, c.isGesture = true) →
      let direct := (s.obeyAll r commands).run w
      (∀ f : Nat → Conversation σ τ, f 0 = .start s w commands →
        ∃ n, ¬ Conversation.Step r (f n) (f (n + 1))) ∧
      ∀ c, Relation.ReflTransGen (Conversation.Step r) (.start s w commands) c →
        (c.client ≠ .ready [] → ∃ d, Conversation.Step r c d) ∧
        (c.client = .ready [] →
          c.loop.session = direct.1.2 ∧ c.loop.tasks = [] ∧
          c.events.length = commands.length ∧
          c.events.map some = direct.1.1.map Result.event? ∧
          ∀ e ∈ c.events, ∀ seq, e ≠ .lookupDiscarded seq ∧ e ≠ .routeDiscarded seq)) ∧
    ∀ (host : Host (StateM ω)) (o : PickOptions) (w w' : ω) (format : Format)
      (settings : Settings) (commands : List Command),
      Format.read (o.format.getD "geojson") = .ok format →
      (pickSettings host o).run.run w = (.ok settings, w') →
      gestures o = .ok commands → commands ≠ [] →
      let resolver := (Service.ofSettings settings).resolver host.exchange
      let session := Session.start Layers.empty settings
      let failures :=
        ((session.obeyAll resolver (replayed o commands)).run w').1.1.countP Result.failed
      let verdict := if failures = 0 then .ok () else .error (.gesturesFailed failures)
      ((pick host o).run.run w).1 = verdict ∧
        ∀ c, Relation.ReflTransGen (Conversation.Step resolver)
            (.start session w' (replayed o commands)) c →
          c.client = .ready [] → outcome (noticesOf c.events).length = verdict := by
  constructor
  · intro r s w commands hgestures direct
    refine ⟨fun f hfirst => Conversation.steps_end f hfirst, fun c hsteps => ?_⟩
    have hfollows := Conversation.steps_follow hsteps
    refine ⟨hfollows.progress, fun hclient => ?_⟩
    obtain ⟨hsession, -, hevents, hfresh, htasks, -⟩ := hfollows.over hclient
    obtain ⟨hlength, hmap⟩ := s.filterMap_event?_obeyAll r hgestures w
    rw [← hevents] at hmap
    refine ⟨hsession, htasks, ?_, hmap, fun e he seq => ?_⟩
    · have hcount := congrArg List.length hmap
      rw [List.length_map, List.length_map] at hcount
      exact hcount.trans hlength
    · rw [hevents, List.mem_filterMap] at he
      obtain ⟨result, hresult, he⟩ := he
      exact Result.not_discarded (hfresh result hresult) he seq
  · intro host o w w' format settings commands hformat hsettings hgestures hne
    refine ⟨run_pick_eq host o hformat hsettings hgestures hne, fun c hsteps hclient => ?_⟩
    obtain ⟨-, -, hevents, -, -, -⟩ := (Conversation.steps_follow hsteps).over hclient
    rw [hevents, length_noticesOf]
    rfl

/-- A host on which there is no file of settings, and to which no service answers. -/
def Host.silent : Host (StateM Unit) where
  settingsPath := some "settings"
  isThere _ := pure false
  readFile _ := pure (.error .notFound)
  makeFolder _ := pure (.ok ())
  writeFile _ _ := pure (.ok ())
  send _ _ := pure .silence
  print _ := pure ()
  warn _ := pure ()

/-- A click and a request for a route are given to a loop. In a conversation that is over there is
one event for each, and one marker, since the route had only one end. A click that is no point is
given to `pick`, and the command says that one gesture failed. -/
theorem awaited_as_direct_failures :
    let r : Resolver (StateM Nat) :=
      ⟨fun p => do modify (· + 1); return { answer := .ok ⟨p, .ofNat (← get)⟩ },
        fun _ _ => return { answer := .error .sessionClosed }⟩
    let s := Session.start Layers.empty .default
    let commands : List Command := [.click 48.0 9.0, .calcRoute]
    (∀ c ∈ commands, c.isGesture = true) ∧
      (∃ c, Relation.ReflTransGen (Conversation.Step r) (.start s 0 commands) c ∧
        c.client = .ready [] ∧ c.events.length = 2 ∧
          c.loop.session.marker .source = some ⟨.source, ⟨48.0, 9.0⟩, some 1, ⟨1⟩⟩) ∧
      ((pick .silent { clicks := ["here"] }).run.run ()).1 = .error (.gesturesFailed 1) := by
  intro r s commands
  have hgestures : ∀ c ∈ commands, c.isGesture = true := by decide
  have hsettings : (pickSettings .silent { clicks := ["here"] }).run.run () =
      (.ok (overridden .default { clicks := ["here"] }), ()) := rfl
  have hdirect := awaited_as_direct (σ := Layers) (τ := Nat) (ω := Unit)
  have hpick := hdirect.2 .silent { clicks := ["here"] } () () .geoJson _ [clickOf "here"] rfl
    hsettings rfl (List.cons_ne_nil _ _)
  obtain ⟨c, hsteps, hclient⟩ := (Conversation.follows_start r s 0 commands).exists_over
  obtain ⟨hsession, -, hlength, -⟩ := (hdirect.1 r s 0 commands hgestures).2 c hsteps |>.2 hclient
  exact ⟨hgestures, ⟨c, hsteps, hclient, hlength, by rw [hsession]; rfl⟩, hpick.1⟩

end Waymark.Program
