import UsbBridge.Proofs.Run
import UsbBridge.Session.Manager

/-!
# Runs of a manager

Whatever a manager is made to do over a host of its own is a run of `Manager.step`
(`advance_proceeds`, `advance_reaches`, `call_reaches`, `runOpenings_reaches`), in which the host's
answers are free.
What the steps of openings keep is kept by every run (`openings_invariant`), and its relay goes
through a run of its own (`relay_run`).
-/

namespace UsbBridge

def Opening.Move.isOwn : Opening.Move → Bool
  | .call _ | .leave _ | .collect _ | .close _ => false
  | _ => true

namespace Manager

variable {σ : Type} (ops : Host σ) {m m' : Manager σ}

@[simp] theorem openings_opening (o : Opening.Move) :
    (m.step (.opening o)).openings = Opening.step m.openings o := rfl
@[simp] theorem openings_relay (r : Relay.Move) : (m.step (.relay r)).openings = m.openings := rfl
@[simp] theorem openings_host (h : σ) : (m.step (.host h)).openings = m.openings := rfl
@[simp] theorem openings_close : (m.step .close).openings = m.openings := rfl

theorem step_openings {P : Opening.State → Prop} {x : Move σ} (h : P m.openings)
    (next : ∀ o, x = .opening o → P (Opening.step m.openings o)) : P (m.step x).openings := by
  cases x with
  | opening o => exact next o rfl
  | relay | host | close => exact h

theorem openings_invariant {P : Opening.State → Prop} (start : P m.openings)
    (next : ∀ s o, P s → P (Opening.step s o)) (moves : List (Move σ)) :
    P (Run.last step m moves).openings :=
  Run.invariant step (P := fun m => P m.openings) start
    (fun _ _ h => step_openings h fun o _ => next _ o h) moves

def Reaches (m m' : Manager σ) : Prop := ∃ moves, m' = Run.last step m moves

theorem Reaches.refl (m : Manager σ) : m.Reaches m := ⟨[], rfl⟩

theorem Reaches.trans {a b c : Manager σ} (h : a.Reaches b) (h' : b.Reaches c) : a.Reaches c := by
  obtain ⟨xs, rfl⟩ := h
  obtain ⟨ys, rfl⟩ := h'
  exact ⟨xs ++ ys, by simp⟩

theorem step_reaches (m : Manager σ) (x : Move σ) : m.Reaches (m.step x) := ⟨[x], rfl⟩

theorem run_openings (m : Manager σ) (moves : List Opening.Move) :
    Run.last step m (moves.map .opening) =
      { m with openings := Run.last Opening.step m.openings moves } := by
  induction moves generalizing m with
  | nil => rfl
  | cons o os ih => exact ih _

/-- Openings have gone on by steps of their own, and the host may have changed. -/
def Proceeds (m m' : Manager σ) : Prop :=
  ∃ host moves, (∀ o ∈ moves, o.isOwn) ∧
    m' = { m with host, openings := Run.last Opening.step m.openings moves }

theorem advance_proceeds {n : Nat} (h : m.advance? ops n = some m') : m.Proceeds m' := by
  have one {o : Opening.Move} {m' : Manager σ} (host : σ) (own : o.isOwn)
      (h : m' = { m with host, openings := Opening.step m.openings o }) : m.Proceeds m' :=
    ⟨host, [o], List.forall_mem_singleton.mpr own, h⟩
  cases hs : m.openings.stage? n with
  | none => simp [advance?, hs] at h
  | some stage =>
    cases stage with
    | admitted =>
      simp only [advance?, hs, Option.some.injEq] at h
      exact one (o := .enumerated n _) m.host rfl h.symm
    | located device =>
      simp only [advance?, hs] at h
      -- The host may fail right at the beginning of an opening.
      have both {o : Opening.Move} {m' : Manager σ} (host : σ) (own : o.isOwn) (h : m' = { m with
          host, openings := Run.last Opening.step m.openings
            [.permitted n (ops.permits m.host device), o] }) : m.Proceeds m' :=
        ⟨host, _, List.forall_mem_cons.mpr ⟨rfl, List.forall_mem_singleton.mpr own⟩, h⟩
      split at h
      · split at h <;> obtain rfl := Option.some.inj h
        · exact one (o := .permitted n _) _ rfl rfl
        · exact both (o := .opened n (.failed _)) _ rfl rfl
        · exact both (o := .opened n (.broken _)) _ rfl rfl
      · exact one (o := .permitted n _) m.host rfl (Option.some.inj h).symm
    | opening device =>
      simp only [advance?, hs] at h
      split at h
      · cases h
      · exact one (o := .opened n _) _ rfl (Option.some.inj h).symm
    | connected connection handle =>
      simp only [advance?, hs, Option.some.injEq] at h
      exact one (o := .duplicated n _) m.host rfl h.symm
    | settled connection result =>
      simp only [advance?, hs, Option.some.injEq] at h
      exact one (o := .released n) m.host rfl h.symm
    | returned | collected => simp [advance?, hs] at h

theorem advance_reaches {n : Nat} (h : m.advance? ops n = some m') : m.Reaches m' := by
  obtain ⟨host, moves, -, rfl⟩ := advance_proceeds ops h
  exact ⟨moves.map .opening ++ [.host host], by rw [Run.last_append, run_openings]; rfl⟩

theorem advance_relay {n : Nat} (h : m.advance? ops n = some m') : m'.relay = m.relay := by
  obtain ⟨host, moves, -, rfl⟩ := advance_proceeds ops h
  rfl

theorem runOpening_reaches (m : Manager σ) (n : Nat) : m.Reaches (m.runOpening ops n) := by
  suffices go : ∀ k (m : Manager σ), m.Reaches (runOpening.go ops n k m) from go 5 m
  intro k
  induction k with
  | zero => exact .refl
  | succ k ih =>
    intro m
    simp only [runOpening.go]
    split
    · rename_i next h
      exact (advance_reaches ops h).trans (ih next)
    · exact .refl m

theorem runOpenings_reaches (m : Manager σ) : m.Reaches (m.runOpenings ops) := by
  unfold runOpenings
  generalize List.range m.openings.tasks.length = numbers
  induction numbers generalizing m with
  | nil => exact .refl m
  | cons n ns ih => exact (runOpening_reaches ops m n).trans (ih _)

theorem call_reaches (m : Manager σ) (id : Identity) : m.Reaches (m.call ops id).2 := by
  have hstep := step_reaches m (.opening (.call id))
  unfold call
  split
  · exact .refl m
  · rename_i n openings h
    have hcall : m.step (.opening (.call id)) = { m with openings } := by
      simp [step, Opening.step, h]
    rw [hcall] at hstep
    exact hstep.trans (runOpening_reaches ops _ n)

-- ---------------------------------------------------------------------------
-- The relay of a manager
-- ---------------------------------------------------------------------------

theorem steps_run (k : Nat) (r : Relay.State) :
    ∃ moves, Relay.State.steps k r = Run.last Relay.State.move r moves := by
  induction k generalizing r with
  | zero => exact ⟨[], rfl⟩
  | succ k ih =>
    cases hs : r.step? with
    | none => exact ⟨[], by simp [Relay.State.steps, hs]⟩
    | some next =>
      obtain ⟨moves, hmoves⟩ := ih next
      refine ⟨.work :: moves, ?_⟩
      simp [Relay.State.steps, Relay.State.move, hs, hmoves]

theorem close_run (m : Manager σ) :
    ∃ moves, m.close.relay = Run.last Relay.State.move m.relay moves := by
  obtain ⟨moves, hmoves⟩ := steps_run m.relay.shutdown.load m.relay.shutdown
  refine ⟨.shutdown :: (moves ++ [.unregister]), ?_⟩
  simp [close, setRelay, Relay.State.settle, hmoves, Relay.State.move]

/-- Whatever a manager goes through, its relay goes through a run of its own. -/
theorem relay_run (m : Manager σ) (moves : List (Move σ)) :
    ∃ relayMoves, (Run.last step m moves).relay = Run.last Relay.State.move m.relay relayMoves := by
  induction moves generalizing m with
  | nil => exact ⟨[], rfl⟩
  | cons x xs ih =>
    obtain ⟨later, hlater⟩ := ih (m.step x)
    cases x with
    | opening o => exact ⟨later, hlater⟩
    | relay r => exact ⟨r :: later, hlater⟩
    | host h => exact ⟨later, hlater⟩
    | close =>
      obtain ⟨closing, hclosing⟩ := close_run m
      exact ⟨closing ++ later, by rw [Run.last_append, ← hclosing]; exact hlater⟩

end Manager

end UsbBridge
