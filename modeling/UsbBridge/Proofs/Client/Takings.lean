import UsbBridge.Proofs.Client.Subscriber

/-!
# What a call keeps of a response

A call returns when its exchange is completed by a response, or fails (`Returns`). Of the
descriptors that came with the response only an opening that succeeded keeps any, and that is the
first one (`Takes`). A feed keeps none (`poll_keeps_none`).
-/

namespace UsbBridge.Client

open Socket

def rightsKept : Except BridgeError (Reply α) → List α
  | .ok (.opened _ right) => [right]
  | _ => []

namespace Command

def answer (command : Command) (result : Except BridgeError (Payload × List α)) :
    Except BridgeError (Reply α) :=
  result.bind fun (payload, rights) => command.interpret payload rights

/-- Which of the descriptors that came with a response are kept for a command. -/
def keeps : Command → Payload → List α → List α
  | .openDevice _, .openResponse (.ok _), rights => rights.take 1
  | _, _, _ => []

end Command

section
variable {s : State α} {l : Link α} {m : Move} {caller : Nat}

def State.held (s : State α) : List α :=
  match s.running with
  | some (_, .receiving r) => r.rights
  | _ => []

/-- The response that completes an exchange with a move, with its caller and the descriptors that
came with the frame. -/
def State.completes? (s : State α) (l : Link α) : Move → Option (Nat × Payload × List α)
  | .receive most =>
    match s.running with
    | some (caller, .receiving r) =>
      match r.step? most l.incoming with
      | some (.done (.message m rights) _, _) => some (caller, m.payload, rights)
      | _ => none
    | _ => none
  | _ => none

inductive Returns (s t : State α) : Option (Nat × Payload × List α) → Prop
  | nothing (same : t.returned = s.returned) : Returns s t none
  | fails {caller e} (returned : t.returned = s.returned ++ [(caller, .error e)]) :
      Returns s t none
  | answers {caller payload rights} (free : t.running = none)
      (returned : t.returned = s.returned ++ [(caller, reply payload rights)]) :
      Returns s t (some (caller, payload, rights))

theorem step_returns (s : State α) (l : Link α) (m : Move) :
    Returns s (s.step l m).1 (s.completes? l m) := by
  have fails (caller : Nat) (e : BridgeError) : Returns s (s.fail caller e) none := .fails rfl
  cases m with
  | call | abandon => exact .nothing rfl
  | begin =>
    have begins := State.begin_begins s
    simp only [State.step, State.completes?]
    generalize s.begin = t at begins
    cases begins with
    | idle | begun => exact .nothing rfl
    | refused | tooLarge => exact .fails rfl
  | send acceptance =>
    simp only [State.step, State.send, State.completes?]
    split
    · split
      · exact fails _ _
      · exact .nothing rfl
    · exact .nothing rfl
  | receive most =>
    simp only [State.step, State.completes?]
    cases run : s.running with
    | none => exact .nothing (by simp [State.receive, run])
    | some exchange =>
      obtain ⟨caller, phase⟩ := exchange
      cases phase with
      | sending sender => exact .nothing (by simp [State.receive, run])
      | receiving r =>
        simp only [State.receive_eq run]
        cases hstep : r.step? most l.incoming with
        | none => exact .nothing rfl
        | some p =>
          obtain ⟨progress, incoming⟩ := p
          cases progress with
          | reading q => exact .nothing rfl
          | done outcome closed =>
            cases outcome with
            | message m rights => exact .answers rfl rfl
            | closed => exact fails caller _
            | failed e => exact fails caller e
  | interrupt e =>
    simp only [State.step, State.interrupt, State.completes?]
    split
    · exact fails _ _
    · exact .nothing rfl
  | expire =>
    simp only [State.step, State.expire, State.completes?]
    split
    · exact fails _ _
    · exact .nothing rfl

theorem answer_error (command : Command) (e : BridgeError) :
    command.answer (.error e : Except BridgeError (Payload × List α)) = .error e := rfl

/-- An opening returns a descriptor just for a response that says so and comes with one. -/
theorem answer_opened {id other : Identity} {payload : Payload} {rights : List α} {fd : α} :
    (Command.openDevice id).answer (reply payload rights) = .ok (.opened other fd) ↔
      payload = .openResponse (.ok other) ∧ ∃ rest, rights = fd :: rest := by
  constructor
  · intro h
    cases payload with
    | openResponse result =>
      cases result with
      | error e => cases h
      | ok opened =>
        cases rights with
        | nil => cases h
        | cons right rest =>
          cases h
          exact ⟨rfl, rest, rfl⟩
    | _ => cases h
  · rintro ⟨rfl, rest, rfl⟩
    rfl

theorem rightsKept_answer (command : Command) (payload : Payload) (rights : List α) :
    rightsKept (command.answer (reply payload rights)) = command.keeps payload rights := by
  cases command with
  | listDevices =>
    cases payload with
    | listDevicesResponse result => cases result <;> rfl
    | _ => rfl
  | hasPermission =>
    cases payload with
    | hasPermissionResponse result => cases result <;> rfl
    | _ => rfl
  | openDevice =>
    cases payload with
    | openResponse result =>
      cases result with
      | error => rfl
      | ok => cases rights <;> rfl
    | _ => rfl
  | subscribe => cases payload <;> rfl

/-- What a move of a client comes to for descriptors, on any connection. -/
structure Takes (s : State α) (l : Link α) (m : Move) : Prop where
  /-- A caller that opens a device gets it just when its exchange is completed by a response that
  says so and came with a descriptor, and gets the first one. -/
  opened : ∀ caller id other fd,
    (∃ result, (s.step l m).1.returned = s.returned ++ [(caller, result)] ∧
      (Command.openDevice id).answer result = .ok (.opened other fd)) ↔
    ∃ rest, s.completes? l m = some (caller, .openResponse (.ok other), fd :: rest)
  /-- Of the descriptors that came with a response the client holds none when it has returned, and
  its caller none but that one. -/
  closed : ∀ caller payload rights, s.completes? l m = some (caller, payload, rights) →
    (s.step l m).1.held = [] ∧
    ∃ result, (s.step l m).1.returned = s.returned ++ [(caller, result)] ∧
      ∀ command : Command, rightsKept (command.answer result) = command.keeps payload rights

theorem step_takes (s : State α) (l : Link α) (m : Move) : Takes s l m := by
  have returns := step_returns s l m
  generalize hdone : s.completes? l m = done at returns
  refine ⟨fun caller id other fd => ?_, fun caller payload rights same => ?_⟩
  · rw [hdone]
    cases returns with
    | nothing same => simp [same]
    | @fails c e returned =>
      constructor
      · rintro ⟨result, more, opened⟩
        rw [returned, List.append_cancel_left_eq, List.singleton_inj, Prod.mk.injEq] at more
        rw [← more.2, answer_error] at opened
        cases opened
      · rintro ⟨rest, same⟩
        cases same
    | @answers c payload rights free returned =>
      rw [returned]
      constructor
      · rintro ⟨result, more, opened⟩
        rw [List.append_cancel_left_eq, List.singleton_inj, Prod.mk.injEq] at more
        obtain ⟨rfl, rfl⟩ := more
        obtain ⟨rfl, rest, rfl⟩ := answer_opened.mp opened
        exact ⟨rest, rfl⟩
      · rintro ⟨rest, same⟩
        cases same
        exact ⟨_, rfl, rfl⟩
  · rw [hdone] at same
    subst same
    cases returns with
    | answers free returned =>
      refine ⟨by simp [State.held, free], _, returned, fun command => ?_⟩
      exact rightsKept_answer command payload rights

end

/-- A feed has no descriptor left of what it has read as a whole. -/
theorem poll_keeps_none {f : Feed α} (going : f.ended = none) {l : Link α}
    (read : (f.poll l).1.isSome) : (f.poll l).2.1.reading.rights = [] := by
  have taken (f : Feed α) (outcome : Outcome α) : (f.take outcome).2.reading = f.reading := by
    cases outcome with
    | closed | failed => rfl
    | message m rights =>
      simp only [Feed.take]
      split <;> rfl
  simp only [Feed.poll, going] at read ⊢
  generalize f.reading.run l.incoming = run at read ⊢
  obtain ⟨progress, incoming⟩ := run
  cases progress with
  | reading r => cases read
  | done outcome closed => exact congrArg Receiver.rights (taken _ outcome)

end UsbBridge.Client
