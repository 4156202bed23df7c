import UsbBridge.Proofs.Opening.Changes
import UsbBridge.Proofs.Relay.Attached
import UsbBridge.Proofs.Session.Runs
import UsbBridge.Session.Bench

/-!
# A listing and the events after it

Devices come and leave, and each time the operating system reports it, if only later (`History`).
Whoever takes a listing, subscribes and applies the events to it has the listing of now
(`listing_mirrored`): a device that leaves is told by its identity alone, and the weaker filter for
such devices lets through whatever was listed.
-/

namespace UsbBridge

/-- A listing after an event: what has come stands at the end, and what has left is gone. -/
def HotplugEvent.apply (listing : List Descriptor) (e : HotplugEvent) : List Descriptor :=
  match e.kind with
  | .attached => listing ++ [e.device]
  | .detached => listing.eraseP (·.identity = e.device.identity)

-- ---------------------------------------------------------------------------
-- One change
-- ---------------------------------------------------------------------------

namespace Directory

open Relay.State (eventOf eventOf_eq_some_iff)

def shown (f : DeviceFilter) (devices : List Device) : List Descriptor :=
  (visible f devices).map Device.describe

section
variable {f : DeviceFilter} {d seen : Device} {xs ys : List Device} {action : String}

theorem listing_ok (f : DeviceFilter) (devices : List Device) :
    listing f (.ok devices) = .ok (shown f devices) := rfl

theorem shown_append (f : DeviceFilter) (xs ys : List Device) :
    shown f (xs ++ ys) = shown f xs ++ shown f ys := by
  simp [shown, visible]

theorem shown_cons (f : DeviceFilter) (d : Device) (ys : List Device) :
    shown f (d :: ys) = (if f.allows d then [d.describe] else []) ++ shown f ys := by
  cases h : f.allows d <;> simp [shown, visible, h]

theorem shown_identity {x : Descriptor} (h : x ∈ shown f xs) :
    ∃ e ∈ xs, e.identity = x.identity := by
  obtain ⟨e, he, rfl⟩ := List.mem_map.mp h
  exact ⟨e, (List.mem_filter.mp he).1, rfl⟩

theorem distinct_middle : ((xs ++ d :: ys).map Device.identity).Nodup ↔
    ((xs ++ ys).map Device.identity).Nodup ∧ ∀ e ∈ xs ++ ys, e.identity ≠ d.identity := by
  rw [(List.perm_middle.map Device.identity).nodup_iff, List.map_cons, List.nodup_cons, and_comm]
  simp only [List.mem_map, not_exists, not_and, ne_eq]

/-- A device that has come is reported if it is listed from now on. -/
theorem shown_plug (f : DeviceFilter) (kind : HotplugKind.ofAction? action = some .attached)
    (d : Device) (devices : List Device) :
    shown f (devices ++ [d]) =
      (eventOf f ⟨action, d⟩).toList.foldl HotplugEvent.apply (shown f devices) := by
  rw [shown_append, shown_cons]
  cases h : f.allows d <;>
    simp [eventOf, kind, DeviceFilter.allowsEvent, h, shown, visible, HotplugEvent.apply]

/-- What is known of a device that has left is enough to name it and to tell its model. -/
theorem snapshot_same (f : DeviceFilter)
    (snapshot : seen = d ∨ seen = { d with serialLine := false }) :
    seen.describe = d.describe ∧ f.allowsDeparted seen = f.allowsDeparted d := by
  obtain rfl | rfl := snapshot <;> exact ⟨rfl, rfl⟩

/-- A device that has left is reported if it was listed, and perhaps if it was not. -/
theorem shown_unplug (f : DeviceFilter) (kind : HotplugKind.ofAction? action = some .detached)
    (snapshot : seen = d ∨ seen = { d with serialLine := false })
    (distinct : ((xs ++ d :: ys).map Device.identity).Nodup) :
    shown f (xs ++ ys) =
      (eventOf f ⟨action, seen⟩).toList.foldl HotplugEvent.apply (shown f (xs ++ d :: ys)) := by
  obtain ⟨same, departed⟩ := snapshot_same f snapshot
  have other : ∀ x ∈ shown f (xs ++ ys), ¬ x.identity = d.identity := by
    intro x hx named
    obtain ⟨e, he, hid⟩ := shown_identity hx
    exact (distinct_middle.mp distinct).2 e he (hid.trans named)
  cases hd : f.allowsDeparted d with
  | false =>
    have hidden : f.allows d = false := by simp [DeviceFilter.allows, hd]
    simp [shown_append, shown_cons, eventOf, kind, DeviceFilter.allowsEvent, departed, hd, hidden]
  | true =>
    have event : eventOf f ⟨action, seen⟩ = some ⟨.detached, d.describe⟩ :=
      eventOf_eq_some_iff.mpr ⟨kind, departed.trans hd, same.symm⟩
    rw [event, Option.toList_some, List.foldl_cons, List.foldl_nil]
    show shown f (xs ++ ys) = (shown f (xs ++ d :: ys)).eraseP (·.identity = d.identity)
    rw [shown_append] at other ⊢
    rw [shown_append, shown_cons]
    cases listed : f.allows d with
    | true =>
      have before : ∀ x ∈ shown f xs, ¬ decide (x.identity = d.identity) = true := fun x hx =>
        by simpa using other x (List.mem_append_left _ hx)
      rw [List.eraseP_append_right _ before, if_pos rfl, List.singleton_append,
        List.eraseP_cons_of_pos (by simp [Device.describe])]
    | false =>
      rw [if_neg nofun, List.nil_append, List.eraseP_of_forall_not (by simpa using other)]

end

end Directory

-- ---------------------------------------------------------------------------
-- Histories
-- ---------------------------------------------------------------------------

namespace Manager

variable {σ : Type}

def Move.relay? : Move σ → Option Relay.Move
  | .relay r => some r
  | _ => none

def Move.notice? (x : Move σ) : Option RawNotification := x.relay?.bind (·.notice?)

/-- How the attached devices change in a run: one that comes is added at the end, one that leaves is
taken away, and no two have the same identity. Each change is reported once, in order, but perhaps
only later; nothing is left to report at the end. Of a device that has left it may be unknown that
it had a serial line. -/
inductive History (ops : Host σ) :
    List Device → List RawNotification → List (Move σ) → List Device → Prop
  | done {ds} : History ops ds [] [] ds
  | plug {ds es d host action waiting moves} (there : ops.devices host = .ok (ds ++ [d]))
      (kind : HotplugKind.ofAction? action = some .attached)
      (fresh : ∀ e ∈ ds, e.identity ≠ d.identity)
      (later : History ops (ds ++ [d]) (waiting ++ [⟨action, d⟩]) moves es) :
      History ops ds waiting (.host host :: moves) es
  | unplug {xs ys es d seen host action waiting moves}
      (there : ops.devices host = .ok (xs ++ ys))
      (kind : HotplugKind.ofAction? action = some .detached)
      (snapshot : seen = d ∨ seen = { d with serialLine := false })
      (later : History ops (xs ++ ys) (waiting ++ [⟨action, seen⟩]) moves es) :
      History ops (xs ++ d :: ys) waiting (.host host :: moves) es
  | report {ds es r waiting moves} (later : History ops ds waiting moves es) :
      History ops ds (r :: waiting) (.relay (.notify r) :: moves) es
  /-- Anything else leaves the devices alone, and is not reported as if it were such a change. -/
  | other {ds es x waiting moves} (same : ∀ host, x = .host host → ops.devices host = .ok ds)
      (quiet : ∀ r, x.notice? = some r → HotplugKind.ofAction? r.action = none)
      (later : History ops ds waiting moves es) : History ops ds waiting (x :: moves) es

open Directory (shown)
open Relay.State (eventOf)

section
variable {ops : Host σ} {m : Manager σ} {x : Move σ} {ds es : List Device}
variable {waiting : List RawNotification} {moves : List (Move σ)}

theorem History.host (h : History ops ds waiting moves es) (listed : ops.devices m.host = .ok ds) :
    ops.devices (Run.last step m moves).host = .ok es := by
  induction h generalizing m with
  | done => exact listed
  | plug there kind fresh later ih => exact ih there
  | unplug there kind snapshot later ih => exact ih there
  | report later ih => exact ih listed
  | @other ds es x waiting moves same quiet later ih =>
    refine ih ?_
    cases x with
    | host host => exact same host rfl
    | opening | relay | close => exact listed

/-- What a listing shows at the end, if there is one from which all that is still to be reported
would lead to what it shows now. -/
theorem History.shown (h : History ops ds waiting moves es) (f : DeviceFilter)
    (distinct : (ds.map Device.identity).Nodup) {listing : List Descriptor}
    (now : shown f ds = (waiting.filterMap (eventOf f)).foldl HotplugEvent.apply listing) :
    Directory.shown f es =
      ((moves.filterMap (·.notice?)).filterMap (eventOf f)).foldl HotplugEvent.apply listing := by
  induction h generalizing listing with
  | done => exact now
  | @plug ds es d host action waiting moves there kind fresh later ih =>
    refine ih (Directory.distinct_middle.mpr ?_) ?_
    · simpa using And.intro distinct fresh
    · rw [Directory.shown_plug f kind, now, filterMap_concat, List.foldl_append]
  | @unplug xs ys es d seen host action waiting moves there kind snapshot later ih =>
    refine ih (Directory.distinct_middle.mp distinct).1 ?_
    rw [Directory.shown_unplug f kind snapshot distinct, now, filterMap_concat, List.foldl_append]
  | @report ds es r waiting moves later ih =>
    rw [filterMap_cons_toList, List.foldl_append] at now
    have hr : Move.notice? (.relay (.notify r) : Move σ) = some r := rfl
    rw [List.filterMap_cons_some hr, filterMap_cons_toList, List.foldl_append]
    exact ih distinct now
  | @other ds es x waiting moves same quiet later ih =>
    cases hx : x.notice? with
    | none =>
      rw [List.filterMap_cons_none hx]
      exact ih distinct now
    | some r =>
      have unseen : eventOf f r = none := by simp [eventOf, quiet r hx]
      rw [List.filterMap_cons_some hx, List.filterMap_cons_none unseen]
      exact ih distinct now

-- ---------------------------------------------------------------------------
-- The relay's part
-- ---------------------------------------------------------------------------

def handed (m : Manager σ) (n : Nat) (moves : List (Move σ)) : List HotplugEvent :=
  (Run.record step m moves).filterMap fun p => p.2.relay?.bind (p.1.relay.handed? n)

theorem registered_step (h : (m.step x).relay.registered = true) :
    x ≠ .close ∧ m.relay.registered = true := by
  cases x with
  | relay r => exact ⟨nofun, Relay.State.registered_move h⟩
  | opening | host => exact ⟨nofun, h⟩
  | close => cases h

/-- A manager that has not been closed has moved its relay by the relay's own moves. -/
theorem relay_last (registered : (Run.last step m moves).relay.registered = true) :
    m.relay.registered = true ∧
      (Run.last step m moves).relay =
        Run.last Relay.State.move m.relay (moves.filterMap (·.relay?)) ∧
      ∀ n, m.handed n moves = m.relay.handed n (moves.filterMap (·.relay?)) := by
  induction moves generalizing m with
  | nil => exact ⟨registered, rfl, fun _ => rfl⟩
  | cons x xs ih =>
    obtain ⟨later, hlast, hhanded⟩ := ih registered
    obtain ⟨going, earlier⟩ := registered_step later
    refine ⟨earlier, ?_, fun n => ?_⟩
    · rw [Run.last_cons, hlast]
      cases x with
      | relay r => rfl
      | opening | host => rfl
      | close => exact absurd rfl going
    · have hx : m.handed n (x :: xs) = (x.relay?.bind (m.relay.handed? n)).toList ++
          (m.step x).handed n xs := filterMap_cons_toList _ _ _
      rw [hx, hhanded]
      cases x with
      | relay r => exact (Relay.State.handed_cons _ n r _).symm
      | opening | host => rfl
      | close => exact absurd rfl going

theorem filter_openings (s : Opening.State) (o : Opening.Move) :
    (Opening.step s o).filter = s.filter := by
  have yields (s : Opening.State) n r : (s.yield n r).filter = s.filter := by
    unfold Opening.State.yield; split <;> rfl
  have closes (s : Opening.State) d : (s.closeDuplicate d).filter = s.filter := by
    unfold Opening.State.closeDuplicate; split <;> rfl
  refine Opening.step_keeps (P := fun t => t.filter = s.filter) (fun _ _ h => h) (fun c h => ?_)
    (fun {t n id result} _ _ h => ?_) (fun _ _ h => (closes _ _).trans h) rfl
  · cases c with
    | locate | approve | connect | refuse | copy | leave => exact h
    | fail | release => exact (yields _ _ _).trans h
    | @clean n result =>
      cases result with
      | ok dup => exact (closes _ _).trans h
      | error e => exact h
  · cases result <;> exact h

theorem filter_step (m : Manager σ) (x : Move σ) : (m.step x).filter = m.filter := by
  cases x with
  | opening o => exact filter_openings m.openings o
  | relay | host | close => rfl

theorem filter_last (host : σ) (f : DeviceFilter) (registered : Bool) (limit : Duration)
    (duplication : Except String Unit) (moves : List (Move σ)) :
    (Run.last step (start host f registered limit duplication) moves).filter = f :=
  Run.invariant step (P := fun m => m.filter = f) rfl (fun m x h => (filter_step m x).trans h) moves

/-- The listing of now is the one taken before the subscription, with the events that its holder has
read since then applied in order, once everything has been reported, delivered and read. -/
theorem listing_mirrored {host : σ} {f : DeviceFilter} {registered : Bool} {limit : Duration}
    {duplication : Except String Unit} {before : List (Move σ)} {m t : Manager σ}
    (begun : m = Run.last step (start host f registered limit duplication) before)
    (idle : m.relay.notifications = []) (listed : ops.devices m.host = .ok ds)
    (distinct : (ds.map Device.identity).Nodup) (history : History ops ds [] moves es)
    (run : t = Run.last step (m.step (.relay .subscribe)) moves)
    (attached : t.relay.current = some m.relay.feeds.length)
    (intact : t.relay.registered = true) (drained : t.relay.notifications = [])
    (read : (t.relay.recv m.relay.feeds.length).map (·.1) = some .pending) :
    ∃ listing, m.list ops = .ok listing ∧
      t.list ops = .ok (((m.step (.relay .subscribe)).handed m.relay.feeds.length moves).foldl
        HotplugEvent.apply listing) := by
  have hm : m.filter = f := begun ▸ filter_last host f registered limit duplication before
  have ht : t.filter = f := by
    have := filter_last host f registered limit duplication (before ++ .relay .subscribe :: moves)
    rwa [Run.last_append, ← begun, Run.last_cons, ← run] at this
  have there : ops.devices t.host = .ok es := run ▸ history.host listed
  refine ⟨Directory.shown f ds, ?_, ?_⟩
  · rw [list, hm, listed, Directory.listing_ok]
  obtain ⟨relayMoves, hrelay⟩ := relay_run (start host f registered limit duplication) before
  have delivered := Relay.State.delivered_run f registered relayMoves
  rw [show Relay.State.start f registered =
    (start host f registered limit duplication).relay from rfl, ← hrelay, ← begun] at delivered
  obtain ⟨-, hlast, hhanded⟩ := relay_last (run ▸ intact)
  rw [← run] at hlast
  rw [hlast] at attached intact drained read
  have all := Relay.State.attended delivered idle attached intact drained read
  have notices : (moves.filterMap (·.relay?)).filterMap (·.notice?) =
      moves.filterMap (·.notice?) := List.filterMap_filterMap
  rw [notices] at all
  have mirrored : Directory.shown f es = ((moves.filterMap (·.notice?)).filterMap (eventOf f)).foldl
      HotplugEvent.apply (Directory.shown f ds) := history.shown f distinct rfl
  rw [list, ht, there, Directory.listing_ok, mirrored, hhanded, ← all]
  rfl

end

-- ---------------------------------------------------------------------------
-- A swap of two modems
-- ---------------------------------------------------------------------------

def modem (port : String) : Device := ⟨1, 4, some port, 0x1209, 0x0001, 2, true⟩

def keyboard : Device := ⟨1, 5, some "1-2", 0x046d, 0xc31c, 0, false⟩

def hostWith (devices : List Device) : ScriptedHost := { ScriptedHost.empty with devices }

/-- A manager that shows modems only, on a host that has one of them and a keyboard. -/
def swapStart : Manager ScriptedHost :=
  start (hostWith [modem "1-1", keyboard]) ⟨[], true, false⟩ true (.ofMillis 1000) (.ok ())

/-- Another modem comes, then the first one leaves. Both are reported later, when the serial line of
the one that left is no longer known. -/
def swap : List (Move ScriptedHost) :=
  [.host (hostWith [modem "1-1", keyboard, modem "1-3"]),
    .relay .work,
    .host (hostWith [keyboard, modem "1-3"]),
    .relay (.notify ⟨"add", modem "1-3"⟩),
    .relay (.notify ⟨"remove", { modem "1-1" with serialLine := false }⟩),
    .relay .work, .relay (.recv 0), .relay .work, .relay (.recv 0)]

theorem swap_history : History ScriptedHost.ops [modem "1-1", keyboard] [] swap
    [keyboard, modem "1-3"] := by
  refine .plug rfl (show HotplugKind.ofAction? "add" = _ by rfl) (by decide) ?_
  refine .other nofun nofun ?_
  refine @History.unplug _ _ [] [keyboard, modem "1-3"] _ _ _ _ _ _ _ rfl
    (show HotplugKind.ofAction? "remove" = _ by rfl) (.inr rfl) ?_
  refine .report (.report ?_)
  iterate 4 refine .other nofun nofun ?_
  exact .done

theorem swap_mirrored :
    (swapStart.step (.relay .subscribe)).handed 0 swap =
        [⟨.attached, (modem "1-3").describe⟩, ⟨.detached, (modem "1-1").describe⟩] ∧
      ∃ listing, swapStart.list ScriptedHost.ops = .ok listing ∧
        (Run.last step (swapStart.step (.relay .subscribe)) swap).list ScriptedHost.ops =
          .ok (((swapStart.step (.relay .subscribe)).handed 0 swap).foldl HotplugEvent.apply
            listing) :=
  ⟨by decide, listing_mirrored (Run.last_nil step swapStart).symm rfl rfl (by decide)
    swap_history rfl (by decide) (by decide) (by decide) (by decide)⟩

end Manager

end UsbBridge
