import UsbBridge.Proofs.Client.World
import UsbBridge.Proofs.Lists
import UsbBridge.Proofs.Run

/-!
# A response belongs to the request it was given for

Every move of a client keeps to the stages, and when it returns a response, that is the answer to
the request of the only exchange without one (`Stage.act`). So the calls that return what the peer
said are those of the first exchanges, each with the answer to its own request, and an exchange
that ends in any other way is the last one (`responses_paired`).
-/

namespace UsbBridge.Client

open Socket
open UsbBridge.Frame (wrap bodies)

-- ---------------------------------------------------------------------------
-- The client's moves
-- ---------------------------------------------------------------------------

/-- What a move of the client comes to after these exchanges: no call returns a response, or one
returns the answer to the request of the only exchange without one. -/
inductive Advances (s t : State α) (f : FarEnd α) (xs : List (Nat × Payload)) (n : Nat) : Prop
  | quiet (same : t.answered = s.answered) (stage : Stage t f xs n)
  | replies {caller result} (more : t.answered = s.answered ++ [(caller, result)])
      (matched : Matched f xs n caller result) (stage : Stage t f xs (n + 1))

section
variable {s t : State α} {f : FarEnd α} {l : Link α} {xs : List (Nat × Payload)} {n caller : Nat}
variable {x : Nat × Payload}

/-- The callers in line do not matter. -/
theorem Stage.of_same (h : Stage s f xs n) (run : t.running = s.running)
    (out : t.outOfStep = s.outOfStep) : Stage t f xs n := by
  cases h with
  | idle sound free inStep boundary =>
    exact .idle sound (run.trans free) (out.trans inStep) boundary
  | asking sound run' out' part silent way =>
    exact .asking sound (run.trans run') (out.trans out') part silent way
  | answered sound run' out' reading coming =>
    exact .answered sound (run.trans run') (out.trans out') reading coming
  | spoilt free out' more => exact .spoilt (run.trans free) (out.trans out') more

theorem Stage.of_running (h : Stage s f xs n) (run : s.running ≠ none) :
    s.outOfStep = true ∧ n < xs.length := by
  cases h with
  | idle sound free inStep boundary => exact absurd free run
  | asking sound run' out part silent way => exact ⟨out, by simp⟩
  | answered sound run' out reading coming => exact ⟨out, by simp⟩
  | spoilt free out more => exact absurd free run

theorem Stage.of_free (h : Stage s f xs n) (free : s.running = none)
    (inStep : s.outOfStep = false) :
    n = xs.length ∧ Sound f xs ∧ Boundary f xs := by
  cases h with
  | idle sound _ _ boundary => exact ⟨rfl, sound, boundary⟩
  | asking _ run => simp [run] at free
  | answered _ run => simp [run] at free
  | spoilt _ out => simp [out] at inStep

theorem Stage.fail {e : BridgeError} (h : Stage s f xs n) (run : s.running ≠ none)
    (own : reported e = false) (g : FarEnd α) : Advances s (s.fail caller e) g xs n := by
  obtain ⟨out, more⟩ := h.of_running run
  exact .quiet (State.answered_fail own) (.spoilt rfl out more)

theorem Stage.begin (h : Stage s f xs n) :
    Advances s s.begin f (xs ++ (s.starts .begin).toList) n := by
  have hb := s.begin_begins
  generalize s.begin = t at hb
  cases hb with
  | idle quiet still =>
    rw [quiet]
    exact .quiet rfl (by simpa using h)
  | refused free out line =>
    have quiet : s.starts .begin = none := by simp [State.starts, out]
    rw [quiet, Option.toList_none, List.append_nil]
    exact .quiet (State.answered_fail rfl) (h.of_same free.symm rfl)
  | tooLarge free inStep starts line own =>
    obtain ⟨rfl, -, -⟩ := h.of_free free inStep
    rw [starts]
    exact .quiet (State.answered_fail own) (.spoilt rfl rfl (by simp))
  | @begun caller request later free inStep starts line small =>
    obtain ⟨rfl, sound, boundary⟩ := h.of_free free inStep
    rw [starts]
    refine .quiet rfl (.asking (x := (caller, request))
      ⟨small_concat sound.small small, sound.solid, sound.light, sound.stays⟩ rfl rfl
      (.part (by simp [wrap, Frame.header]))
      ⟨boundary.answers, boundary.incoming, boundary.pending⟩ fun _ => ?_)
    rw [boundary.outgoing, boundary.heard, frames_concat]
    simp

theorem unsent_rest (rest : List UInt8) :
    Unsent (if rest.isEmpty then .receiving .start else .sending ⟨rest, []⟩ : Phase α) rest := by
  cases rest with
  | nil => exact .none Receiver.reading_start rfl
  | cons b bs => exact .part (List.cons_ne_nil b bs)

theorem Stage.send (h : Stage s f xs n) (acceptance : Acceptance) :
    Advances s (s.send f.link acceptance).1
      { f with link := (s.send f.link acceptance).2 } xs n := by
  have stage := h
  cases h with
  | idle _ free | spoilt free =>
    simp only [State.send, free]
    exact .quiet rfl stage
  | answered _ run =>
    simp only [State.send, run]
    exact .quiet rfl stage
  | @asking xs x phase unsent sound run out part silent way =>
    cases part with
    | none reading bare =>
      simp only [State.send, run]
      exact .quiet rfl stage
    | part nonempty =>
      have hs := State.send_sends (l := f.link) run nonempty acceptance
      generalize s.send f.link acceptance = p at hs
      cases hs with
      | waits => exact .quiet rfl stage
      | fails own => exact stage.fail (by simp [run]) own _
      | @sent sent rest parts hsent heard =>
        have solid : Solid [(⟨sent, []⟩ : Chunk α)] := by simpa [Solid] using hsent
        have light : Light [(⟨sent, []⟩ : Chunk α)] := by simp [Light]
        refine .quiet rfl (.asking ⟨sound.small, solid_append.mpr ⟨sound.solid, solid⟩,
          light_append.mpr ⟨sound.light, light⟩, sound.stays⟩ rfl out (unsent_rest rest)
          ⟨silent.answers, silent.incoming, silent.pending⟩ fun here => ?_)
        rw [← way here, parts]
        simp

/-- With the last byte of the answer the stream is between two frames again. -/
theorem Coming.whole {a : Answer α} {taken body : List UInt8} {rights : List α}
    {lost : List (Chunk α)} (coming : Coming f xs a taken rights lost) (whole : taken = wrap body)
    (small : body.length ≤ Frame.limit) :
    body = a.body ∧ rights = rightsOf a.pieces ∧ Boundary f xs := by
  obtain ⟨outgoing, heard, answers, latest, bytes, hrights, solid⟩ := coming
  rw [whole] at bytes
  obtain ⟨same, none⟩ := Frame.wrap_append_eq small a.fits bytes
  have empty := solid.eq_nil none
  rw [empty, rightsOf_nil, List.append_nil] at hrights
  simp only [List.append_eq_nil_iff] at empty
  exact ⟨same, hrights, outgoing, empty.1.1, empty.1.2, heard, answers⟩

theorem Coming.receive {a : Answer α} {taken bytes : List UInt8} {rights new : List α} {room : Nat}
    {lost left : List (Chunk α)} (coming : Coming f xs a taken rights lost)
    (g : Gathered room f.link.incoming.chunks bytes new left) :
    Coming { f with link.incoming.chunks := left } xs a (taken ++ bytes) (rights ++ new) lost where
  outgoing := coming.outgoing
  heard := coming.heard
  answers := coming.answers
  latest := coming.latest
  bytes := by simpa [g.allBytes] using coming.bytes
  rights := by simpa [g.allRights] using coming.rights
  solid := by
    have solid := coming.solid
    rw [solid_append, solid_append] at solid ⊢
    exact ⟨⟨g.solid, solid.1.2⟩, solid.2⟩

theorem Stage.receive (h : Stage s f xs n) (most : Nat) :
    Advances s (s.receive f.link most).1 { f with link := (s.receive f.link most).2 } xs n := by
  have stage := h
  cases h with
  | idle _ free | spoilt free =>
    simp only [State.receive, free]
    exact .quiet rfl stage
  | @asking xs x phase unsent sound run out part silent way =>
    cases part with
    | part nonempty =>
      simp only [State.receive, run]
      exact .quiet rfl stage
    | @none r reading bare =>
      have hr := State.receive_reads (l := f.link) run reading (by simp [silent.incoming]) most
      generalize s.receive f.link most = p at hr
      cases hr with
      | waits => exact .quiet rfl stage
      | fails own => exact stage.fail (by simp [run]) own _
      | @goesOn room bytes rights left q g hq all =>
        have hbytes := g.allBytes
        have hrights := g.allRights
        rw [silent.incoming, eq_comm, bytesOf_nil, List.append_eq_nil_iff] at hbytes
        rw [silent.incoming, eq_comm, rightsOf_nil, List.append_eq_nil_iff] at hrights
        rw [hbytes.1] at hq
        exact .quiet rfl (.asking ⟨sound.small, sound.solid, sound.light, sound.stays⟩ rfl out
          (.none hq (by rw [all, bare, hrights.1]; rfl))
          ⟨silent.answers, g.solid.eq_nil hbytes.2, silent.pending⟩ way)
      | @answers room bytes rights left m body g whole small ok =>
        have hbytes := g.allBytes
        rw [silent.incoming, eq_comm, bytesOf_nil, List.append_eq_nil_iff] at hbytes
        rw [hbytes.1] at whole
        cases whole
  | @answered xs x r taken a lost sound run out reading coming =>
    have solid := (solid_append.mp (solid_append.mp coming.solid).1).1
    have hr := State.receive_reads run reading solid most
    generalize s.receive f.link most = p at hr
    cases hr with
    | waits => exact .quiet rfl stage
    | fails own => exact stage.fail (by simp [run]) own _
    | goesOn g hq all =>
      exact .quiet rfl (.answered ⟨sound.small, sound.solid, sound.light, sound.stays⟩ rfl out hq
        (all ▸ coming.receive g))
    | @answers room bytes rights left m body g whole small ok =>
      have hcoming := coming.receive g
      obtain ⟨rfl, hrights, boundary⟩ := hcoming.whole whole small
      have hlen : f.answers.length = xs.length + 1 := by simpa using coming.answers
      have matched : Matched { f with link.incoming.chunks := left } (xs ++ [x]) xs.length x.1
          (reply m.payload (r.rights ++ rights)) := by
        refine ⟨x.2, a, m, by simp, ?_, ?_, ok, by rw [hrights]⟩
        · rw [boundary.heard, bodies_frames sound.small]
          simp [requestsOf]
        · have latest := coming.latest
          rwa [List.getLast?_eq_getElem?, hlen] at latest
      have stage : Stage (s.answer x.1 m.payload (r.rights ++ rights))
          { f with link.incoming.chunks := left } (xs ++ [x]) (xs ++ [x]).length :=
        .idle ⟨sound.small, sound.solid, sound.light, sound.stays⟩ rfl rfl boundary
      rw [List.length_append] at stage
      exact .replies (State.answered_answer _ _) matched stage

/-- Whoever leaves the line is not missed, but an exchange that is given up leaves the stream out of
step. -/
theorem Stage.abandon (h : Stage s f xs n) (other : Nat) :
    Advances s (s.abandon other) f xs n := by
  cases run : s.running with
  | none => exact .quiet rfl (h.of_same (by simp [State.abandon, run]) rfl)
  | some exchange =>
    obtain ⟨caller, phase⟩ := exchange
    by_cases mine : caller = other
    · obtain ⟨out, more⟩ := h.of_running (by simp [run])
      exact .quiet rfl (.spoilt (by simp [State.abandon, run, mine]) out more)
    · exact .quiet rfl (h.of_same (by simp [State.abandon, run, mine]) rfl)

theorem Stage.act (h : Stage s f xs n) (m : Move) : Advances s (s.step f.link m).1
    { f with link := (s.step f.link m).2 } (xs ++ (s.starts m).toList) n := by
  by_cases begins : m = .begin
  · subst begins
    exact h.begin
  rw [State.starts_eq_none begins, Option.toList_none, List.append_nil]
  cases m with
  | begin => exact absurd rfl begins
  | call other request => exact .quiet rfl (h.of_same rfl rfl)
  | send acceptance => exact h.send acceptance
  | receive most => exact h.receive most
  | interrupt e =>
    simp only [State.step, State.interrupt]
    split
    · rename_i caller r run
      exact h.fail (by simp [run]) rfl f
    · exact .quiet rfl h
  | expire =>
    simp only [State.step, State.expire]
    split
    · rename_i caller phase run
      exact h.fail (by simp [run]) rfl f
    · exact .quiet rfl h
  | abandon other => exact h.abandon other

end

-- ---------------------------------------------------------------------------
-- Runs
-- ---------------------------------------------------------------------------

/-- The client is of no more use: whatever happens, callers get an error as soon as it is their
turn, and nothing is sent or received. -/
structure Refusing (before now : State α) : Prop where
  free : now.running = none
  outOfStep : now.outOfStep = true
  returned : ∃ later, now.returned = before.returned ++ later ∧
    ∀ call ∈ later, call.2 = .error .connectionClosed
  silent : ∀ (l : Link α) m, (now.step l m).2 = l
  refuses : ∀ caller request later, now.waiting = (caller, request) :: later →
    now.begin = { now with
      waiting := later, returned := now.returned ++ [(caller, .error .connectionClosed)] }

/-- What is known of a client and its peer after a run. -/
structure Paired (past : List (World α × Turn α)) (w : World α) : Prop where
  /-- Who got a response got the answer to the own request. -/
  matched : ∀ j caller result, w.client.answered[j]? = some (caller, result) →
    Matched w.far (exchanges past) j caller result
  /-- At most the latest exchange is in progress, and all earlier ones got a response. -/
  running : ∀ caller phase, w.client.running = some (caller, phase) →
    w.client.outOfStep = true ∧ (exchanges past).length = w.client.answered.length + 1 ∧
      ∃ request, (exchanges past).getLast? = some (caller, request)
  boundary : w.client.running = none → w.client.outOfStep = false → Boundary w.far (exchanges past)
  /-- Only an exchange that was started and got no response puts the stream out of step. -/
  inStep : w.client.running = none →
    (w.client.outOfStep = false ↔ w.client.answered.length = (exchanges past).length)
  refusing : w.client.running = none → w.client.answered.length ≠ (exchanges past).length →
    ∀ turns, Refusing w.client (Run.last World.step w turns).client
  /-- A caller that leaves the line changes nothing but the line. -/
  leaving : ∀ caller, (∀ phase, w.client.running ≠ some (caller, phase)) →
    w.client.step w.far.link (.abandon caller) =
      ({ w.client with waiting := w.client.waiting.filter fun (other, _) => other ≠ caller },
        w.far.link)

section
variable {s : State α} {w : World α} {past : List (World α × Turn α)} {t : Turn α}
variable {f g : FarEnd α} {xs ys : List (Nat × Payload)} {j caller : Nat}
variable {result : Except BridgeError (Payload × List α)}

theorem exchanges_concat (past : List (World α × Turn α)) (w : World α) (t : Turn α) :
    exchanges (past ++ [(w, t)]) = exchanges past ++ (w.starts t).toList :=
  filterMap_concat _ _ _

/-- What was matched stays so: the peer's part and the exchanges only grow. -/
theorem Matched.later (h : Matched f xs j caller result) (heard : f.heard <+: g.heard)
    (answers : f.answers <+: g.answers) (more : xs <+: ys) : Matched g ys j caller result := by
  obtain ⟨request, a, m, hx, hb, ha, ok, same⟩ := h
  obtain ⟨rest, hrest⟩ := heard
  refine ⟨request, a, m, getElem?_of_prefix more hx, ?_, getElem?_of_prefix answers ha, ok, same⟩
  rw [← hrest]
  exact getElem?_of_prefix (Frame.bodies_append f.heard rest) hb

theorem step_grows (f : FarEnd α) (p : PeerMove α) :
    f.heard <+: (f.step p).heard ∧ f.answers <+: (f.step p).answers := by
  cases p with
  | hear most =>
    simp only [FarEnd.step, FarEnd.hear]
    split <;> simp
  | answer a =>
    simp only [FarEnd.step, FarEnd.answer]
    split <;> simp
  | push =>
    simp only [FarEnd.step, FarEnd.push]
    split <;> simp
  | leave => simp [FarEnd.step, FarEnd.leave]

/-- The invariant: where things are, and what every call got so far. -/
structure Kept (w : World α) (past : List (World α × Turn α)) : Prop where
  stage : Stage w.client w.far (exchanges past) w.client.answered.length
  matched : ∀ j caller result, w.client.answered[j]? = some (caller, result) →
    Matched w.far (exchanges past) j caller result

theorem kept_start (timeout : Duration) : Kept (World.start timeout : World α) [] where
  stage := .idle ⟨nofun, solid_nil, nofun, rfl⟩ rfl rfl ⟨rfl, rfl, rfl, rfl, rfl⟩
  matched := nofun

theorem Kept.step (h : Kept w past) (t : Turn α) : Kept (w.step t) (past ++ [(w, t)]) := by
  have more : exchanges past <+: exchanges (past ++ [(w, t)]) :=
    exchanges_concat past w t ▸ List.prefix_append _ _
  cases t with
  | peer p =>
    obtain ⟨heard, answers⟩ := step_grows w.far p
    refine ⟨?_, fun j caller result hj => (h.matched j caller result hj).later heard answers more⟩
    rw [exchanges_concat, World.starts, Option.toList_none, List.append_nil]
    exact h.stage.peer p
  | client m =>
    have ha := h.stage.act m
    rw [← show w.starts (.client m) = w.client.starts m from rfl, ← exchanges_concat] at ha
    have old : ∀ j caller result, w.client.answered[j]? = some (caller, result) →
        Matched (w.step (.client m)).far (exchanges (past ++ [(w, .client m)])) j caller result :=
      fun j caller result hj => (h.matched j caller result hj).later (List.prefix_refl _)
        (List.prefix_refl _) more
    cases ha with
    | quiet same stage =>
      exact ⟨same.symm ▸ stage, fun j caller result hj => old j caller result (same ▸ hj)⟩
    | @replies caller result grown matched stage =>
      refine ⟨?_, fun j other result' hj => ?_⟩
      · have hlen := congrArg List.length grown
        rw [List.length_append, List.length_singleton] at hlen
        exact hlen.symm ▸ stage
      · rcases getElem?_concat_cases (grown ▸ hj) with hj | ⟨rfl, same⟩
        · exact old j other result' hj
        · cases same
          exact matched

theorem begin_refuses (free : s.running = none) (out : s.outOfStep = true) {request : Payload}
    {later : List (Nat × Payload)} (line : s.waiting = (caller, request) :: later) :
    s.begin = { s with
      waiting := later, returned := s.returned ++ [(caller, .error .connectionClosed)] } := by
  simp only [State.begin, free, line, out, if_true, State.fail]

/-- Out of step and with nothing in progress, a client can only turn callers away. -/
theorem spoilt_step (free : s.running = none) (out : s.outOfStep = true) (l : Link α) (m : Move) :
    (s.step l m).2 = l ∧ (s.step l m).1.running = none ∧ (s.step l m).1.outOfStep = true ∧
      ∃ later, (s.step l m).1.returned = s.returned ++ later ∧
        ∀ call ∈ later, call.2 = .error .connectionClosed := by
  have unchanged : ∃ later, s.returned = s.returned ++ later ∧
      ∀ call ∈ later, call.2 = .error .connectionClosed := ⟨[], by simp⟩
  cases m with
  | call other request => exact ⟨rfl, free, out, unchanged⟩
  | begin =>
    cases line : s.waiting with
    | nil =>
      have same : s.step l .begin = (s, l) := by simp only [State.step, State.begin, free, line]
      rw [same]
      exact ⟨rfl, free, out, unchanged⟩
    | cons first later =>
      rw [State.step, begin_refuses free out line]
      exact ⟨rfl, free, out, _, rfl, by simp⟩
  -- These concern the exchange in progress only.
  | send | receive | interrupt | expire =>
    simp [State.step, State.send, State.receive, State.interrupt, State.expire, free, out]
  | abandon other => exact ⟨rfl, by simp [State.step, State.abandon, free], out, unchanged⟩

theorem Refusing.of_spoilt {before : State α} (free : s.running = none) (out : s.outOfStep = true)
    (returned : ∃ later, s.returned = before.returned ++ later ∧
      ∀ call ∈ later, call.2 = .error .connectionClosed) : Refusing before s where
  free := free
  outOfStep := out
  returned := returned
  silent := fun l m => (spoilt_step free out l m).1
  refuses := fun _ _ _ line => begin_refuses free out line

theorem Refusing.step {before : State α} (h : Refusing before w.client) (t : Turn α) :
    Refusing before (w.step t).client := by
  cases t with
  | peer p => exact h
  | client m =>
    obtain ⟨-, free, out, later, hlater, closed⟩ :=
      spoilt_step h.free h.outOfStep w.far.link m
    obtain ⟨earlier, hearlier, closed'⟩ := h.returned
    refine .of_spoilt free out ⟨earlier ++ later, ?_, ?_⟩
    · rw [← List.append_assoc, ← hearlier]
      exact hlater
    · intro call hcall
      exact (List.mem_append.mp hcall).elim (closed' call) (closed call)

/-- Nothing that happens later puts the stream back in step. -/
theorem refusing_run (free : w.client.running = none) (out : w.client.outOfStep = true)
    (turns : List (Turn α)) : Refusing w.client (Run.last World.step w turns).client :=
  Run.invariant World.step (P := fun v => Refusing w.client v.client)
    (.of_spoilt free out ⟨[], by simp⟩) (fun _ t h => h.step t) turns

theorem Stage.inStep_iff {n : Nat} (h : Stage s f xs n) (free : s.running = none) :
    s.outOfStep = false ↔ n = xs.length := by
  cases h with
  | idle sound free inStep boundary => simp [inStep]
  | asking sound run => simp [run] at free
  | answered sound run => simp [run] at free
  | spoilt free out more => simp [out, Nat.ne_of_lt more]

theorem Stage.latest {n : Nat} {phase : Phase α} (h : Stage s f xs n)
    (run : s.running = some (caller, phase)) :
    xs.length = n + 1 ∧ ∃ request, xs.getLast? = some (caller, request) := by
  cases h with
  | idle sound free => simp [free] at run
  | spoilt free => simp [free] at run
  | asking sound run' =>
    rw [run'] at run
    cases run
    exact ⟨by simp, _, List.getLast?_concat⟩
  | answered sound run' =>
    rw [run'] at run
    cases run
    exact ⟨by simp, _, List.getLast?_concat⟩

/-- A response is never taken for the answer to another request: a call that returns a message, or
an error that the peer reported, returns what the peer answered to the request of its own exchange.
Between exchanges the stream is at a frame boundary with nothing unanswered on it, unless an
exchange got no response; then every later call fails before it sends or receives a byte. -/
theorem responses_paired (timeout : Duration) (turns : List (Turn α)) :
    Paired (Run.record World.step (World.start timeout) turns)
      (Run.last World.step (World.start timeout) turns) := by
  have h : Kept (Run.last World.step (World.start timeout) turns)
      (Run.record World.step (World.start timeout) turns) :=
    Run.induction World.step [] (kept_start timeout) (fun _ _ t h => h.step t) turns
  generalize Run.last World.step (World.start timeout) turns = w at h
  generalize Run.record World.step (World.start timeout) turns = past at h
  refine
    { matched := h.matched
      running := fun caller phase run =>
        ⟨(h.stage.of_running (by simp [run])).1, h.stage.latest run⟩
      boundary := fun free inStep => (h.stage.of_free free inStep).2.2
      inStep := h.stage.inStep_iff
      refusing := fun free unanswered => refusing_run free ?_
      leaving := fun caller other => ?_ }
  · rw [← Bool.not_eq_false]
    exact fun inStep => unanswered ((h.stage.inStep_iff free).mp inStep)
  · cases run : w.client.running with
    | none => simp [State.step, State.abandon, run]
    | some exchange =>
      have theirs : exchange.1 ≠ caller := fun h => other exchange.2 (by rw [run, ← h])
      simp [State.step, State.abandon, run, theirs]

end

end UsbBridge.Client
