import EventLog.Session

/-!
# What is done to an opened log

The accessors of an opened log leave it as it is; whatever changes it is an action. `after` runs
actions in order, so that what holds of every log and after every action holds after all of them
(`after_induction`). What an action can do is said once (`act_cases`). A log is closed just if one
of the actions closed it (`contents_after_eq_none_iff`), and of its settings only the codepage
changes (`settings_after`).
-/

namespace EventLog

/-- Something that changes an opened log. -/
inductive Action where
  /-- Runs recovery again. -/
  | recover
  /-- Selects the codepage with a number. -/
  | setCodepage (number : UInt32)
  /-- Raises or lowers the abort flag. -/
  | setAborted (aborted : Bool)
  /-- Gives the source a new plan. -/
  | arm (plan : FaultPlan)
  /-- Closes the log. -/
  | close

/-- The codepage that an action selects; an unknown number selects none. -/
def Action.codepage? : Action → Option Codepage
  | .setCodepage number => (Codepage.ofNumber number).toOption
  | _ => none

namespace Session

/-- The log after an action, whether or not the action succeeds. -/
def act (session : Session) : Action → Session
  | .recover => session.recover.2
  | .setCodepage number => (session.setCodepage number).2
  | .setAborted aborted => session.setAborted aborted
  | .arm plan => session.arm plan
  | .close => session.close.2

/-- The log after all of the actions, in order. -/
def after (session : Session) (actions : List Action) : Session := actions.foldl act session

/-- Actions in two parts are the first part and then the second. -/
theorem after_append (session : Session) (first second : List Action) :
    session.after (first ++ second) = (session.after first).after second := List.foldl_append

/-- What holds of a log and is kept by each of the actions holds after all of them. -/
theorem after_induction_of_mem {motive : Session → Prop} (session : Session)
    (start : motive session) (actions : List Action)
    (keep : ∀ s, ∀ action ∈ actions, motive s → motive (s.act action)) :
    motive (session.after actions) := by
  induction actions generalizing session with
  | nil => exact start
  | cons action rest ih =>
    refine ih _ (keep _ action List.mem_cons_self start) ?_
    intro s later member
    exact keep s later (List.mem_cons_of_mem _ member)

/-- What holds of a log and is kept by every action holds after all actions. -/
theorem after_induction {motive : Session → Prop} (session : Session) (start : motive session)
    (keep : ∀ s action, motive s → motive (s.act action)) (actions : List Action) :
    motive (session.after actions) :=
  after_induction_of_mem session start actions fun s action _ => keep s action

/-- An action runs a recovery pass over what the log holds, or it leaves the bytes of the file and
the outcome as they are, and also what the log holds unless it drops all of that. -/
theorem act_cases (session : Session) (action : Action) :
    (∃ contents, session.contents = some contents ∧
        session.act action = session.recoverWithin contents) ∨
      ((session.act action).source.data = session.source.data ∧
        (session.act action).outcome = session.outcome ∧
        ((session.act action).contents = session.contents ∨
          (session.act action).contents = none)) := by
  cases action with
  | recover =>
    rw [act, recover]
    cases holding : session.contents with
    | none => exact .inr ⟨rfl, rfl, .inl holding⟩
    | some contents => exact .inl ⟨contents, rfl, rfl⟩
  | setCodepage number =>
    rw [act, setCodepage]
    split <;> exact .inr ⟨rfl, rfl, .inl rfl⟩
  | setAborted aborted => exact .inr ⟨rfl, rfl, .inl rfl⟩
  | arm plan => exact .inr ⟨rfl, rfl, .inl rfl⟩
  | close =>
    rw [act, close]
    cases holding : session.contents with
    | none => exact .inr ⟨rfl, rfl, .inl holding⟩
    | some contents => exact .inr ⟨rfl, rfl, .inr rfl⟩

/-- A closed log is left closed by every action. -/
theorem contents_act_of_closed {session : Session} (closed : session.contents = none)
    (action : Action) : (session.act action).contents = none := by
  rcases session.act_cases action with ⟨contents, holding, -⟩ | ⟨-, -, same | dropped⟩
  · rw [closed] at holding
    cases holding
  · exact same.trans closed
  · exact dropped

/-- Whatever is done to a closed log, it stays closed. -/
theorem contents_after_of_closed {session : Session} (closed : session.contents = none)
    (actions : List Action) : (session.after actions).contents = none :=
  after_induction (motive := fun s => s.contents = none) session closed
    (fun _ action closed => contents_act_of_closed closed action) actions

/-- Nothing but closing a log closes it. -/
theorem eq_close_of_contents_act {session : Session} (held : session.contents ≠ none)
    {action : Action} (closes : (session.act action).contents = none) : action = .close := by
  cases action with
  | recover =>
    obtain ⟨contents, holding⟩ := Option.ne_none_iff_exists'.mp held
    rw [act, recover, holding] at closes
    cases closes
  | setCodepage number =>
    simp only [act, setCodepage] at closes
    split at closes <;> exact absurd closes held
  | setAborted aborted => exact absurd closes held
  | arm plan => exact absurd closes held
  | close => rfl

/-- A log can be closed as long as it is open. -/
theorem close_eq_ok_iff {session : Session} :
    session.close.1 = .ok () ↔ session.contents ≠ none := by
  rw [close]
  cases session.contents with
  | none => exact ⟨nofun, fun held => absurd rfl held⟩
  | some contents => exact ⟨fun _ => nofun, fun _ => rfl⟩

/-- A log is closed just if one of the actions closed it. -/
theorem contents_after_eq_none_iff {session : Session} (held : session.contents ≠ none)
    (actions : List Action) :
    (session.after actions).contents = none ↔
      ∃ before later, actions = before ++ .close :: later ∧
        (session.after before).close.1 = .ok () := by
  constructor
  · intro closed
    induction actions generalizing session with
    | nil => exact absurd closed held
    | cons action rest ih =>
      by_cases next : (session.act action).contents = none
      · rw [eq_close_of_contents_act held next]
        exact ⟨[], rest, rfl, close_eq_ok_iff.mpr held⟩
      · obtain ⟨before, later, rfl, closes⟩ := ih next closed
        exact ⟨action :: before, later, rfl, closes⟩
  · rintro ⟨before, later, rfl, -⟩
    have closed : ((session.after before).act .close).contents = none := by
      rw [act, close]
      cases holding : (session.after before).contents with
      | none => exact holding
      | some contents => rfl
    rw [after_append]
    exact contents_after_of_closed closed later

/-- An action changes no setting but the codepage, and that only if it selects one. -/
theorem settings_act (session : Session) (action : Action) :
    (session.act action).settings =
      { session.settings with
        codepage := action.codepage?.getD session.settings.codepage } := by
  cases action with
  | recover =>
    rw [act, recover]
    cases session.contents <;> rfl
  | setCodepage number =>
    rw [act, setCodepage, Action.codepage?]
    cases Codepage.ofNumber number <;> rfl
  | setAborted aborted => rfl
  | arm plan => rfl
  | close =>
    rw [act, close]
    cases session.contents <;> rfl

/-- All actions together change no setting but the codepage, which is the one selected last. -/
theorem settings_after (session : Session) (actions : List Action) :
    (session.after actions).settings =
      { session.settings with
        codepage :=
          (actions.filterMap Action.codepage?).getLast?.getD session.settings.codepage } := by
  induction actions generalizing session with
  | nil => rfl
  | cons action rest ih =>
    have later : session.after (action :: rest) = (session.act action).after rest := rfl
    rw [later, ih, settings_act, List.filterMap_cons]
    cases action.codepage? with
    | none => rfl
    | some codepage =>
      dsimp only
      rw [List.getLast?_cons, Option.getD_some, Option.getD_some]

/-- A codepage is selected just if its number is known. -/
theorem setCodepage_eq_ok_iff {session : Session} {number : UInt32} :
    (session.setCodepage number).1 = .ok () ↔ (Action.setCodepage number).codepage?.isSome := by
  rw [setCodepage, Action.codepage?]
  cases Codepage.ofNumber number with
  | error e => exact ⟨nofun, nofun⟩
  | ok codepage => exact ⟨fun _ => rfl, fun _ => rfl⟩

end Session

end EventLog
