import UsbBridge.Proofs.Relay.Attached

/-!
# Devices that a filter hides

Devices come and leave while a relay works, and a removal tells of a device what its arrival told
(`Comings`). No event is about a device that the filter hides, with one exception: the rule about
serial lines is not applied to a device that has left, so its removal is shown although its arrival
was not (`hidden_removal`). The removal of a device that is shown and came during a subscription
follows the event of its arrival (`exposure`).
-/

namespace UsbBridge

-- ---------------------------------------------------------------------------
-- The two filters
-- ---------------------------------------------------------------------------

namespace DeviceFilter

/-- Hidden as long as it is attached, for nothing but the lack of a serial line. -/
def HidesUntilGone (f : DeviceFilter) (d : Device) : Prop :=
  f.serialLineOnly = true ∧ d.serialLine = false ∧ f.allowsDeparted d = true

theorem allowsDeparted_of_allows {f : DeviceFilter} {d : Device} (h : f.allows d = true) :
    f.allowsDeparted d = true := by
  rw [allows] at h
  exact (Bool.and_eq_true_iff.mp h).1

theorem allows_of_event {f : DeviceFilter} {kind : HotplugKind} {d : Device}
    (h : f.allowsEvent kind d = true) :
    f.allows d = true ∨ (kind = .detached ∧ f.HidesUntilGone d) := by
  cases kind with
  | attached => exact .inl h
  | detached =>
    have departed : f.allowsDeparted d = true := h
    cases hline : f.serialLineOnly && !d.serialLine with
    | false =>
      left
      rw [allows, departed, hline]
      rfl
    | true =>
      obtain ⟨only, none⟩ := Bool.and_eq_true_iff.mp hline
      exact .inr ⟨rfl, only, by simpa using none, departed⟩

end DeviceFilter

namespace Relay

open State

variable {f : DeviceFilter} {d : Device} {present : List Device} {action : String}

-- ---------------------------------------------------------------------------
-- Devices that come and leave
-- ---------------------------------------------------------------------------

/-- How the attached devices change in a run. Only a device that is there can leave, and then the
report of it carries the same data as the one of its arrival. -/
inductive Comings : List Device → List Move → Prop
  | done {ds} : Comings ds []
  | plug {ds d action moves} (kind : HotplugKind.ofAction? action = some .attached)
      (later : Comings (ds ++ [d]) moves) : Comings ds (.notify ⟨action, d⟩ :: moves)
  | unplug {xs ys d action moves} (kind : HotplugKind.ofAction? action = some .detached)
      (later : Comings (xs ++ ys) moves) : Comings (xs ++ d :: ys) (.notify ⟨action, d⟩ :: moves)
  | other {ds m moves} (quiet : ∀ r, m.notice? = some r → HotplugKind.ofAction? r.action = none)
      (later : Comings ds moves) : Comings ds (m :: moves)

def Plugged (d : Device) (moves : List Move) : Prop :=
  ∃ action, HotplugKind.ofAction? action = some .attached ∧ .notify ⟨action, d⟩ ∈ moves

theorem Plugged.later {m : Move} {moves : List Move} (h : Plugged d moves) :
    Plugged d (m :: moves) := by
  obtain ⟨action, kind, hmem⟩ := h
  exact ⟨action, kind, List.mem_cons_of_mem _ hmem⟩

theorem Comings.known {moves : List Move} {kind : HotplugKind} (h : Comings present moves)
    (reported : .notify ⟨action, d⟩ ∈ moves) (hk : HotplugKind.ofAction? action = some kind) :
    d ∈ present ∨ Plugged d moves := by
  induction h with
  | done => cases reported
  | @plug ds e came moves attached later ih =>
    rcases List.mem_cons.mp reported with same | reported
    · cases same
      exact .inr ⟨action, attached, List.mem_cons_self⟩
    · rcases ih reported with there | plugged
      · rcases List.mem_append.mp there with there | new
        · exact .inl there
        · rw [List.mem_singleton.mp new]
          exact .inr ⟨came, attached, List.mem_cons_self⟩
      · exact .inr plugged.later
  | @unplug xs ys e left moves detached later ih =>
    rcases List.mem_cons.mp reported with same | reported
    · cases same
      exact .inl (List.mem_append_right _ List.mem_cons_self)
    · rcases ih reported with there | plugged
      · refine .inl ?_
        rcases List.mem_append.mp there with there | there
        · exact List.mem_append_left _ there
        · exact List.mem_append_right _ (List.mem_cons_of_mem _ there)
      · exact .inr plugged.later
  | @other ds m moves quiet later ih =>
    rcases List.mem_cons.mp reported with same | reported
    · subst same
      have unseen := quiet ⟨action, d⟩ rfl
      rw [unseen] at hk
      cases hk
    · exact (ih reported).imp id .later

-- ---------------------------------------------------------------------------
-- Reports and their places
-- ---------------------------------------------------------------------------

namespace State

variable {s : State} {r : RawNotification} {e : HotplugEvent} {n : Nat} {moves : List Move}

theorem mem_pushes (h : r ∈ s.pushes moves) : .notify r ∈ moves := by
  obtain ⟨⟨t, m⟩, hrec, hm⟩ := List.mem_filterMap.mp h
  obtain ⟨before, after, rfl, -⟩ := Run.mem_record _ hrec
  cases m with
  | notify r' =>
    simp only [pushed?] at hm
    split at hm
    · obtain rfl := Option.some.inj hm
      simp
    · cases hm
  | _ => cases hm

theorem handled_reported {p : RawNotification × Option Nat} {us vs}
    (start : s.notifications = []) (hlog : s.log moves = us ++ p :: vs) :
    .notify p.1 ∈ moves := by
  obtain ⟨rest, hqueue, -⟩ := queue_conserved s moves
  rw [start, List.nil_append] at hqueue
  refine mem_pushes (s := s) ?_
  rw [← hqueue, hlog]
  simp

/-- The event of some place is the image of a notification that has so many images before it. -/
theorem getElem?_images {past : List (RawNotification × Option Nat)} {i : Nat}
    (h : (images f past n)[i]? = some e) :
    ∃ us r vs, past = us ++ (r, some n) :: vs ∧ (images f us n).length = i ∧
      eventOf f r = some e := by
  rw [images, List.filterMap_filter] at h
  obtain ⟨us, ⟨r, target⟩, vs, hpast, place, image⟩ := split_of_getElem?_filterMap h
  rw [Option.ite_none_right_eq_some] at image
  obtain ⟨same, image⟩ := image
  obtain rfl : target = some n := by simpa using same
  exact ⟨us, r, vs, hpast, by rw [images, List.filterMap_filter, place], image⟩

theorem images_cons (f : DeviceFilter) (r : RawNotification) (n : Nat)
    (past : List (RawNotification × Option Nat)) :
    images f ((r, some n) :: past) n = (eventOf f r).toList ++ images f past n := by
  rw [images, List.filter_cons_of_pos (by simp), filterMap_cons_toList]
  rfl

theorem pushes_unregistered (h : s.registered = false) (moves : List Move) :
    s.pushes moves = [] := by
  induction moves generalizing s with
  | nil => rfl
  | cons m ms ih =>
    have hm : s.pushed? m = none := by cases m <;> simp [pushed?, h]
    have hs : (s.move m).registered = false := by
      rw [← Bool.not_eq_true] at h ⊢
      exact mt registered_move h
    rw [pushes_cons, hm, ih hs]
    rfl

/-- What was handled first was queued first. -/
theorem log_reports {xs ys : List (RawNotification × Option Nat)} {before after : List Move}
    (start : s.notifications = []) (hlog : s.log (before ++ after) = xs ++ ys)
    (place : xs.length = (s.pushes before).length) : xs.map (·.1) = s.pushes before := by
  obtain ⟨rest, hqueue, -⟩ := queue_conserved s (before ++ after)
  rw [start, List.nil_append, hlog, pushes_append, List.map_append, List.append_assoc] at hqueue
  exact (List.append_inj hqueue (by simpa using place)).1

/-- Who gets a notification has got each one that was handled since the subscription began. -/
theorem gapless_run {before after : List Move} {xs ys : List (RawNotification × Option Nat)}
    (h : (Run.last move s before).Sound)
    (hlog : s.log (before ++ .subscribe :: after) =
      xs ++ (r, some (Run.last move s before).feeds.length) :: ys)
    {p : RawNotification × Option Nat} {i : Nat} (later : (s.log before).length ≤ i)
    (hp : xs[i]? = some p) : p.2 = some (Run.last move s before).feeds.length := by
  rw [log_append, log_cons, handled_eq_none (by simp), Option.toList_none,
    List.nil_append] at hlog
  have earlier : s.log before <+: xs := by
    refine List.prefix_of_prefix_length_le ⟨_, hlog⟩ (List.prefix_append ..) ?_
    exact Nat.le_trans later (Nat.le_of_lt (List.getElem?_eq_some_iff.mp hp).1)
  obtain ⟨us, rfl⟩ := earlier
  rw [List.append_assoc] at hlog
  rw [List.getElem?_append_right later] at hp
  exact gapless h (List.append_cancel_left hlog) p (List.mem_of_getElem? hp)

/-- A removal that reaches a subscription comes after the arrival, if that was reported to it. -/
theorem arrival_reached {before first second after begun there : List Move}
    {came left : RawNotification} (sound : (Run.last move s before).Sound)
    (start : s.notifications = []) (hbegun : begun = before ++ .subscribe :: first)
    (hthere : there = begun ++ .notify came :: second)
    (hmoves : moves = there ++ .notify left :: after)
    (hn : n = (Run.last move s before).feeds.length)
    (reached : (s.log moves)[(s.pushes there).length]? = some (left, some n)) :
    ∃ us vs ws, s.log moves = us ++ (came, some n) :: vs ++ (left, some n) :: ws ∧
      us.length = (s.pushes begun).length := by
  obtain ⟨xs, ws, hlog, hxs⟩ := split_of_getElem? reached
  have reports : xs.map (·.1) = s.pushes there := by
    rw [hmoves] at hlog
    exact log_reports start hlog hxs
  -- The arrival was queued, since without a registration nothing more would have been.
  have registered : (Run.last move s begun).registered = true := by
    rw [← Bool.not_eq_false]
    intro gone
    have hpushes : s.pushes moves = s.pushes there := by
      rw [hmoves, hthere, List.append_assoc, pushes_append s begun, pushes_append s begun,
        pushes_unregistered gone, pushes_unregistered gone]
    have hlen := length_log start moves
    rw [hpushes, hlog, ← hxs, List.length_append, List.length_cons] at hlen
    omega
  have queued : s.pushes there =
      s.pushes begun ++ came :: ((Run.last move s begun).move (.notify came)).pushes second := by
    rw [hthere, pushes_append, pushes_cons, pushed?, if_pos registered]
    rfl
  rw [queued] at reports
  obtain ⟨us, ys, rfl, hus, hys⟩ := List.map_eq_append_iff.mp reports
  obtain ⟨p, vs, rfl, rfl, -⟩ := List.map_eq_cons_iff.mp hys
  have place : us.length = (s.pushes begun).length := by rw [← hus, List.length_map]
  have target : p.2 = some n := by
    have hrun : moves = before ++ .subscribe :: (first ++ .notify p.1 :: second ++
        .notify left :: after) := by
      rw [hmoves, hthere, hbegun]
      simp
    have later : (s.log before).length ≤ us.length := by
      rw [place, hbegun, pushes_append, List.length_append]
      exact Nat.le_add_right_of_le (length_log start before)
    rw [hrun, hn] at hlog
    rw [hn]
    exact gapless_run sound hlog later (by simp)
  refine ⟨us, vs, ws, ?_, place⟩
  rw [hlog, ← target]

end State

-- ---------------------------------------------------------------------------
-- Runs of plugs and unplugs
-- ---------------------------------------------------------------------------

/-- Of a relay that has made some moves since its start, while devices came and left: whom the
events are about. -/
structure Exposure (f : DeviceFilter) (registered : Bool) (present : List Device)
    (moves : List Move) : Prop where
  /-- The event of each place is the image of the notification that was handled for this place, and
  the device of that notification was there or came. The filter shows it; only a removal can also be
  of one that it hid for the lack of a serial line. -/
  shown : ∀ (n : Nat) (fd : Feed) (i : Nat) (e : HotplugEvent),
    (Run.last move (start f registered) moves).feeds[n]? = some fd → fd.events[i]? = some e →
    ∃ us r vs, (start f registered).log moves = us ++ (r, some n) :: vs ∧
      (images f us n).length = i ∧ eventOf f r = some e ∧
      (r.device ∈ present ∨ Plugged r.device moves) ∧
      (f.allows r.device = true ∨ (e.kind = .detached ∧ f.HidesUntilGone r.device))
  /-- A device that is shown comes while a subscription lasts, and its removal reaches the
  subscription: then the arrival has reached it before. -/
  announced : ∀ (before first second after begun there : List Move) (d : Device)
    (came left : String) (n : Nat) (fd : Feed),
    begun = before ++ .subscribe :: first → there = begun ++ .notify ⟨came, d⟩ :: second →
    moves = there ++ .notify ⟨left, d⟩ :: after →
    HotplugKind.ofAction? came = some .attached → HotplugKind.ofAction? left = some .detached →
    f.allows d = true → n = (Run.last move (start f registered) before).feeds.length →
    (Run.last move (start f registered) moves).feeds[n]? = some fd →
    ((start f registered).log moves)[((start f registered).pushes there).length]? =
      some (⟨left, d⟩, some n) →
    ∃ us vs ws, (start f registered).log moves =
        us ++ (⟨came, d⟩, some n) :: vs ++ (⟨left, d⟩, some n) :: ws ∧
      us.length = ((start f registered).pushes begun).length ∧
      fd.events = images f us n ++ ⟨.attached, d.describe⟩ :: images f vs n ++
        ⟨.detached, d.describe⟩ :: images f ws n

/-- In every run of plugs and unplugs, with any filter, whoever subscribes, cancels or goes away. -/
theorem exposure {moves : List Move} (f : DeviceFilter) (registered : Bool)
    (comings : Comings present moves) : Exposure f registered present moves where
  shown := by
    intro n fd i e hf he
    rw [(delivered_run f registered moves).events n fd hf] at he
    obtain ⟨us, r, vs, hlog, place, image⟩ := getElem?_images he
    obtain ⟨kind, allowed, -⟩ := eventOf_eq_some_iff.mp image
    have reported : .notify r ∈ moves := handled_reported rfl hlog
    exact ⟨us, r, vs, hlog, place, image, comings.known reported kind,
      DeviceFilter.allows_of_event allowed⟩
  announced := by
    intro before first second after begun there d came left n fd hbegun hthere hmoves hcame hleft
      allowed hn hf reached
    have sound := (delivered_run f registered before).sound
    obtain ⟨us, vs, ws, hlog, place⟩ :=
      arrival_reached sound rfl hbegun hthere hmoves hn reached
    refine ⟨us, vs, ws, hlog, place, ?_⟩
    have departed := DeviceFilter.allowsDeparted_of_allows allowed
    have arrival : eventOf f ⟨came, d⟩ = some ⟨.attached, d.describe⟩ :=
      eventOf_eq_some_iff.mpr ⟨hcame, allowed, rfl⟩
    have removal : eventOf f ⟨left, d⟩ = some ⟨.detached, d.describe⟩ :=
      eventOf_eq_some_iff.mpr ⟨hleft, departed, rfl⟩
    rw [(delivered_run f registered moves).events n fd hf, hlog, images_append, images_append,
      images_cons, images_cons, arrival, removal]
    rfl

-- ---------------------------------------------------------------------------
-- A mouse and an adapter
-- ---------------------------------------------------------------------------

def serialOnly : DeviceFilter := ⟨[], true, false⟩

def mouse : Device := ⟨1, 7, some "1-4", 0x046d, 0xc077, 0, false⟩

def adapter : Device := ⟨1, 8, some "1-5", 0x0403, 0x6001, 0, true⟩

def mouseVisit : List Move :=
  [.subscribe, .work, .notify ⟨"add", mouse⟩, .work, .notify ⟨"remove", mouse⟩, .work]

/-- An adapter comes and leaves while the mouse is there. -/
def adapterVisit : List Move :=
  [.subscribe, .notify ⟨"add", mouse⟩, .notify ⟨"add", adapter⟩, .work, .work, .work,
    .notify ⟨"remove", adapter⟩, .notify ⟨"remove", mouse⟩, .work, .work]

/-- The removal of a device that was never shown is shown. -/
theorem hidden_removal : Comings [] mouseVisit ∧ serialOnly.allows mouse = false ∧
    (Run.last move (start serialOnly true) mouseVisit).feeds.map (·.events) =
      [[⟨.detached, mouse.describe⟩]] := by
  refine ⟨?_, rfl, by decide⟩
  refine .other nofun (.other nofun (.plug (by decide) (.other nofun ?_)))
  exact @Comings.unplug [] [] mouse _ _ (by decide) (.other nofun .done)

theorem exposure_adapter : Comings [] adapterVisit ∧
    (Run.last move (start serialOnly true) adapterVisit).feeds.map (·.events) =
      [[⟨.attached, adapter.describe⟩, ⟨.detached, adapter.describe⟩,
        ⟨.detached, mouse.describe⟩]] ∧
    Exposure serialOnly true [] adapterVisit := by
  have comings : Comings [] adapterVisit := by
    refine .other nofun (.plug (by decide) (.plug (by decide) ?_))
    refine .other nofun (.other nofun (.other nofun ?_))
    refine @Comings.unplug [mouse] [] adapter _ _ (by decide) ?_
    exact @Comings.unplug [] [] mouse _ _ (by decide) (.other nofun (.other nofun .done))
  exact ⟨comings, by decide, exposure serialOnly true comings⟩

end Relay

end UsbBridge
