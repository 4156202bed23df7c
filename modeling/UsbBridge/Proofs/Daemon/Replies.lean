import UsbBridge.Daemon.Basic
import UsbBridge.Proofs.Frame.Fronts
import UsbBridge.Proofs.Lists
import UsbBridge.Proofs.Run

/-!
# What handlers do

A handler takes a message and replies to it (`Answers`), or waits for an opening and replies then
(`Reacts`); besides it passes on what its subscription has. Meanwhile it makes a few moves at the
relay (`Attends`). Whatever it does, it writes one whole frame at most and leaves the other
connections alone, or it cannot send and returns (`Handled`).
-/

namespace UsbBridge

def Payload.isRequest : Payload → Bool
  | .listDevicesRequest | .hasPermissionRequest _ | .openRequest _ | .subscribeRequest
  | .cancelRequest => true
  | _ => false

/-- Whether a payload is about hotplug events, and so not the reply to a request. -/
def Payload.isStream : Payload → Bool
  | .notification _ | .streamEnded _ => true
  | _ => false

def Payload.isHotplug : Payload → Bool
  | .subscribed | .notification _ | .streamEnded _ => true
  | _ => false

def Payload.frame (p : Payload) : List UInt8 := Frame.wrap (Message.ofPayload p).encode

/-- Whether a message of this major version asks for a subscription. -/
def Message.isSubscribe (m : Message) : Bool :=
  match m.version.validate, m.payload with
  | .ok (), .subscribeRequest => true
  | _, _ => false

def Message.isCancel (m : Message) : Bool :=
  match m.version.validate, m.payload with
  | .ok (), .cancelRequest => true
  | _, _ => false

namespace Daemon

open Socket
open UsbBridge.Frame (limit)

-- ---------------------------------------------------------------------------
-- Replies
-- ---------------------------------------------------------------------------

/-- The replies to a message that are of the matching kind. -/
inductive Answers (m : Message) : Payload → Prop
  | refused {e} (other : m.version.validate = .error e) : Answers m (.error e.message)
  | listed {result} (same : m.version.validate = .ok ()) (asks : m.payload = .listDevicesRequest) :
      Answers m (.listDevicesResponse result)
  | permission {id result} (same : m.version.validate = .ok ())
      (asks : m.payload = .hasPermissionRequest id) : Answers m (.hasPermissionResponse result)
  | opened {id result} (same : m.version.validate = .ok ()) (asks : m.payload = .openRequest id)
      (named : ∀ other, result = .ok other → other = id) : Answers m (.openResponse result)
  | subscribed (same : m.version.validate = .ok ()) (asks : m.payload = .subscribeRequest) :
      Answers m .subscribed
  | unexpected (same : m.version.validate = .ok ()) (other : m.payload.isRequest = false) :
      Answers m (.error s!"unexpected message: {m.payload.kind}")

/-- What a handler that takes a message sends at once, and what it is at then. -/
inductive Reacts (m : Message) : Option Payload → Handler → Prop
  | answers {p} (h : Answers m p) : Reacts m (some p) .idle
  | opens {id task} (same : m.version.validate = .ok ()) (asks : m.payload = .openRequest id) :
      Reacts m none (.opening id task)
  | cancels (h : m.isCancel) : Reacts m none .idle
  | ended (h : m.isCancel) : Reacts m (some (.streamEnded .cancelled)) .idle

/-- What a handler does: the messages it takes, what it sends, the requests that it leaves and what
it is at then. -/
inductive Works (conn : Connection) : List Message → Option Payload → List Request → Handler → Prop
  | serves {request later p handler} (idle : conn.handler = .idle)
      (next : conn.requests = request :: later) (h : Reacts request.message p handler) :
      Works conn [request.message] p later handler
  | concludes {id task result} (opening : conn.handler = .opening id task)
      (named : ∀ other, result = .ok other → other = id) :
      Works conn [] (some (.openResponse result)) conn.requests .idle
  | forwards {p} (idle : conn.handler = .idle) (stream : p.isStream) :
      Works conn [] (some p) conn.requests .idle

/-- What a handler does about its subscription while it takes and sends this: its moves at the
relay, and the subscription that it has then. -/
inductive Attends (relay : Relay.State) :
    Option Nat → List Message → Option Payload → List Relay.Move → Option Nat → Prop
  | aside {held taken p} (other : ∀ m ∈ taken, m.isSubscribe = false ∧ m.isCancel = false)
      (plain : ∀ q ∈ p, q.isHotplug = false) : Attends relay held taken p [] held
  | subscribes {held m} (asks : m.isSubscribe) : Attends relay held [m] (some .subscribed)
      (.subscribe :: held.toList.map .drop) (some relay.feeds.length)
  | cancels {n m} (asks : m.isCancel) : Attends relay (some n) [m] none [.cancel n] (some n)
  | acknowledges {m} (asks : m.isCancel) :
      Attends relay none [m] (some (.streamEnded .cancelled)) [] none
  | forwards {n e} (got : (relay.recv n).map (·.1) = some (.event e)) :
      Attends relay (some n) [] (some (.notification e)) [.recv n] (some n)
  | ends {n reason} (got : (relay.recv n).map (·.1) = some (.ended reason)) :
      Attends relay (some n) [] (some (.streamEnded reason)) [.recv n, .drop n] none

/-- The moves by which a handler lets go of its subscription when it returns. -/
def release (held : Option Nat) : List Relay.Move :=
  held.toList.flatMap fun n => [.cancel n, .drop n]

def Connection.next? (conn : Connection) : Option Message :=
  match conn.handler with
  | .idle => conn.requests.head?.map (·.message)
  | _ => none

def told (l : Link Passed) (p : Option Payload) (rights : List Passed) : Link Passed :=
  match p with
  | none => l
  | some p =>
    { l with outgoing := { l.outgoing with chunks := l.outgoing.chunks ++ [⟨p.frame, rights⟩] } }

theorem not_both {m : Message} (cancels : m.isCancel) : m.isSubscribe = false := by
  unfold Message.isCancel at cancels
  split at cancels
  · rename_i same asks
    simp [Message.isSubscribe, asks]
  · cases cancels

section
variable {σ : Type} (ops : Host σ) {s t : State σ} {c d : Nat} {conn : Connection}

-- ---------------------------------------------------------------------------
-- Sending
-- ---------------------------------------------------------------------------

def Only (c : Nat) (s t : State σ) : Prop := ∀ d, d ≠ c → t.connections[d]? = s.connections[d]?

theorem Only.refl (s : State σ) (c : Nat) : Only c s s := fun _ _ => rfl

theorem Only.trans {u : State σ} (h : Only c s t) (h' : Only c t u) : Only c s u :=
  fun d hd => (h' d hd).trans (h d hd)

theorem put_only (s : State σ) (c : Nat) (conn : Connection) : Only c s (s.put c conn) :=
  fun _ hd => List.getElem?_set_ne (Ne.symm hd)

theorem put_self (h : s.connections[c]? = some conn) (next : Connection) :
    (s.put c next).connections[c]? = some next :=
  List.getElem?_set_self (List.getElem?_eq_some_iff.mp h).1

@[simp] theorem put_manager (s : State σ) (c : Nat) (conn : Connection) :
    (s.put c conn).manager = s.manager := rfl

theorem put_put (s : State σ) (c : Nat) (first conn : Connection) :
    (s.put c first).put c conn = s.put c conn := by
  simp [State.put]

theorem stop_only (s : State σ) (c : Nat) : Only c s (s.stop c) := by
  unfold State.stop
  split
  · exact fun _ _ => rfl
  · exact put_only _ _ _

theorem stop_self (h : s.connections[c]? = some conn) :
    (s.stop c).connections[c]? = some conn.stop := by
  simp only [State.stop, h]
  exact put_self h _

theorem stop_relay (h : s.connections[c]? = some conn) :
    (s.stop c).relay = Run.last Relay.State.move s.relay (release conn.subscription) := by
  simp only [State.stop, h]
  cases conn.subscription <;> rfl

/-- A reply arrives as a whole, or the handler returns: the reply does not fit a frame, is broken
off or meets a consumer that does not receive. -/
inductive Replied (s : State σ) (c : Nat) (conn : Connection) (sending : Sending) (p : Payload)
    (rights : List Passed) : State σ → Prop
  | whole (small : (Message.ofPayload p).encode.length ≤ limit) :
      Replied s c conn sending p rights
        (s.put c { conn with link := told conn.link (some p) rights })
  | failed {t : State σ} (q : Connection) (cause : limit < (Message.ofPayload p).encode.length ∨
      sending ≠ .whole ∨ conn.link.outgoing.receiving = false) (only : Only c s t)
      (self : t.connections[c]? = some q.stop)
      (left : t.relay = Run.last Relay.State.move s.relay (release conn.subscription)) :
      Replied s c conn sending p rights t

theorem failed_stop (h : s.connections[c]? = some conn) {sending p rights}
    (cause : limit < (Message.ofPayload p).encode.length ∨ sending ≠ .whole ∨
      conn.link.outgoing.receiving = false) (link : Link Passed) :
    Replied s c conn sending p rights ((s.put c { conn with link }).stop c) := by
  have self : (s.put c { conn with link }).connections[c]? = some { conn with link } := put_self h _
  have left := stop_relay self
  exact .failed { conn with link } cause ((put_only s c _).trans (stop_only _ c)) (stop_self self)
    left

theorem reply_replied (h : s.connections[c]? = some conn) (sending : Sending) (p : Payload)
    (rights : List Passed) : Replied s c conn sending p rights (s.reply c sending p rights) := by
  simp only [State.reply, h, Frame.encode_eq]
  by_cases large : limit < (Message.ofPayload p).encode.length
  · simp only [large, if_true]
    exact .failed conn (.inl large) (stop_only s c) (stop_self h) (stop_relay h)
  simp only [large, if_false]
  cases sending with
  | cut n =>
    have cut : Sending.cut n ≠ .whole := nofun
    split
    · rename_i whole
      exact absurd whole cut
    · exact failed_stop h (.inr (.inl cut)) _
  | whole =>
    cases heard : conn.link.outgoing.receiving with
    | false =>
      simp only [Sending.part, Link.sendBytes, Channel.sendBytes, Channel.send, heard]
      exact failed_stop h (.inr (.inr heard)) _
    | true =>
      have sent :
          conn.link.sendBytes p.frame rights = (.ok (), told conn.link (some p) rights) := by
        simp [Link.sendBytes, Channel.sendBytes, Channel.send, heard, told, Payload.frame,
          Frame.wrap, Frame.header]
      simp only [Sending.part]
      rw [← Payload.frame, sent]
      exact .whole (Nat.le_of_not_lt large)

theorem reply_whole (h : s.connections[c]? = some conn)
    (heard : conn.link.outgoing.receiving = true)
    {p : Payload} (small : (Message.ofPayload p).encode.length ≤ limit) (rights : List Passed) :
    s.reply c .whole p rights = s.put c { conn with link := told conn.link (some p) rights } := by
  have hr := reply_replied h .whole p rights
  generalize s.reply c .whole p rights = t at hr
  cases hr with
  | whole => rfl
  | failed q cause =>
    obtain large | cut | deaf := cause
    · omega
    · exact absurd rfl cut
    · rw [heard] at deaf
      cases deaf

theorem reply_large (h : s.connections[c]? = some conn) {p : Payload}
    (large : limit < (Message.ofPayload p).encode.length) (sending : Sending)
    (rights : List Passed) : s.reply c sending p rights = s.stop c := by
  simp [State.reply, h, Frame.encode_eq, large]

-- ---------------------------------------------------------------------------
-- What handlers do
-- ---------------------------------------------------------------------------

/-- A handler's move is some work, or the handler returns because it cannot send. -/
inductive Handled (s : State σ) (c : Nat) (conn : Connection) (sending : Sending)
    (taken : List Message) (t : State σ) : Prop
  | done {p requests handler} (rights : List Passed) {subscription rs}
      (h : Works conn taken p requests handler)
      (attends : Attends s.relay conn.subscription taken p rs subscription)
      (small : ∀ q ∈ p, (Message.ofPayload q).encode.length ≤ limit) (light : rights.length ≤ 1)
      (only : Only c s t) (self : t.connections[c]? =
        some ⟨told conn.link p rights, conn.reading, requests, handler, subscription⟩)
      (relay : t.relay = Run.last Relay.State.move s.relay rs)
  | failed {p requests handler subscription rs} (q : Connection)
      (h : Works conn taken (some p) requests handler)
      (attends : Attends s.relay conn.subscription taken (some p) rs subscription)
      (cause : limit < (Message.ofPayload p).encode.length ∨ sending ≠ .whole ∨
        conn.link.outgoing.receiving = false) (only : Only c s t)
      (self : t.connections[c]? = some q.stop)
      (left : t.relay = Run.last Relay.State.move s.relay (rs ++ release subscription))

section
variable {sending : Sending} {taken : List Message} {requests : List Request} {handler : Handler}
variable {subscription : Option Nat} {p : Payload} {rs : List Relay.Move}

theorem Handled.setOpenings (h : Handled s c conn sending taken t) (openings : Opening.State) :
    Handled s c conn sending taken (t.setOpenings openings) := by
  cases h with
  | done rights h attends small light only self relay =>
    exact .done rights h attends small light only self relay
  | failed q h attends cause only self left => exact .failed q h attends cause only self left

theorem Handled.only (h : Handled s c conn sending taken t) : Only c s t := by
  cases h with
  | done rights h attends small light only => exact only
  | failed q h attends cause only => exact only

theorem reply_handled (conn : Connection) (only : Only c s t)
    (self : t.connections[c]? = some ⟨conn.link, conn.reading, requests, handler, subscription⟩)
    (h : Works conn taken (some p) requests handler)
    (attends : Attends s.relay conn.subscription taken (some p) rs subscription)
    (relay : t.relay = Run.last Relay.State.move s.relay rs) {rights : List Passed}
    (light : rights.length ≤ 1) : Handled s c conn sending taken (t.reply c sending p rights) := by
  have hr := reply_replied self sending p rights
  generalize t.reply c sending p rights = u at hr
  cases hr with
  | whole small =>
    exact .done _ h attends (fun q hq => Option.some.inj hq ▸ small) light
      (only.trans (put_only t c _)) (put_self self _) relay
  | failed q cause onlyToo selfToo left =>
    refine .failed q h attends cause (only.trans onlyToo) selfToo ?_
    rw [left, relay, Run.last_append]

theorem attends_other {m : Message} {held : Option Nat} {relay : Relay.State} {p : Option Payload}
    (other : (∃ e, m.version.validate = .error e) ∨
      m.payload ≠ .subscribeRequest ∧ m.payload ≠ .cancelRequest)
    (plain : ∀ q ∈ p, q.isHotplug = false) : Attends relay held [m] p [] held := by
  refine .aside (fun m' hm' => ?_) plain
  obtain rfl := List.mem_singleton.mp hm'
  obtain ⟨e, other⟩ | ⟨hsubscribe, hcancel⟩ := other
  · simp [Message.isSubscribe, Message.isCancel, other]
  · simp [Message.isSubscribe, Message.isCancel, hsubscribe, hcancel]

theorem handle_handled (h : s.connections[c]? = some conn) {request : Request}
    {later : List Request}
    (idle : conn.handler = .idle) (next : conn.requests = request :: later) (sending : Sending) :
    Handled s c conn sending [request.message]
      ((s.put c { conn with requests := later }).handle ops c { conn with requests := later }
        sending request.message) := by
  have only := put_only s c { conn with requests := later }
  have self := put_self h { conn with requests := later }
  have there : (s.put c { conn with requests := later }).relay = s.relay := rfl
  generalize s.put c { conn with requests := later } = t at only self there
  have reacts {p handler} (h : Reacts request.message p handler) :
      Works conn [request.message] p later handler := .serves idle next h
  have aside {p} (h : Answers request.message p) (plain : p.isHotplug = false)
      (other : (∃ e, request.message.version.validate = .error e) ∨
        request.message.payload ≠ .subscribeRequest ∧ request.message.payload ≠ .cancelRequest) :
      Handled s c conn sending [request.message] (t.reply c sending p []) :=
    reply_handled conn only (idle ▸ self) (reacts (.answers h))
      (attends_other other fun q hq => Option.some.inj hq ▸ plain) there (Nat.zero_le _)
  unfold State.handle
  split
  · rename_i e other
    exact aside (.refused other) rfl (.inl ⟨e, other⟩)
  rename_i same
  split
  · rename_i asks
    exact aside (.listed same asks) rfl (.inr (by simp [asks]))
  · rename_i id asks
    exact aside (.permission same asks) rfl (.inr (by simp [asks]))
  · rename_i id asks
    split
    · exact aside (.opened same asks nofun) rfl (.inr (by simp [asks]))
    · exact .done [] (reacts (.opens same asks)) (attends_other (.inr (by simp [asks])) nofun) nofun
        (Nat.zero_le _) (only.trans (put_only _ c _)) (put_self self _) there
  · rename_i asks
    have subscribe : request.message.isSubscribe := by simp [Message.isSubscribe, same, asks]
    have attends : Attends s.relay conn.subscription [request.message] (some .subscribed)
      (.subscribe :: conn.subscription.toList.map .drop) (some t.relay.feeds.length) :=
      there ▸ .subscribes subscribe
    have joined : (t.subscribe c { conn with requests := later }).relay =
        Run.last Relay.State.move s.relay (.subscribe :: conn.subscription.toList.map .drop) := by
      simp only [State.subscribe, ← there]
      cases conn.subscription <;> rfl
    have onlyToo : Only c s (t.subscribe c { conn with requests := later }) :=
      only.trans (put_only _ c _)
    refine reply_handled conn onlyToo (put_self self _)
      (idle ▸ reacts (.answers (.subscribed same asks))) attends joined (Nat.zero_le _)
  · rename_i asks
    have cancel : request.message.isCancel := by simp [Message.isCancel, same, asks]
    split
    · rename_i n held
      have held : conn.subscription = some n := held
      have attends : Attends s.relay conn.subscription [request.message] none [.cancel n]
        conn.subscription := held ▸ .cancels cancel
      exact .done [] (reacts (.cancels cancel)) attends nofun (Nat.zero_le _) only (idle ▸ self)
        (congrArg (·.cancel n) there)
    · rename_i unheld
      have unheld : conn.subscription = none := unheld
      have attends : Attends s.relay conn.subscription [request.message]
        (some (.streamEnded .cancelled)) [] conn.subscription := unheld ▸ .acknowledges cancel
      exact reply_handled conn only (idle ▸ self) (reacts (.ended cancel)) attends there
        (Nat.zero_le 1)
  · rename_i other hlist hperm hopen hsub hcancel
    refine aside (.unexpected same ?_) rfl (.inr ⟨hsub, hcancel⟩)
    unfold Payload.isRequest
    split <;> simp_all

theorem serve_cases (h : s.connections[c]? = some conn) (sending : Sending) :
    (∃ request later, conn.handler = .idle ∧ conn.requests = request :: later ∧
      Handled s c conn sending [request.message] (s.serve ops c sending)) ∨
    conn.next? = none ∧ (conn.canServe = false ∧ s.serve ops c sending = s ∨ conn.handler = .idle ∧
      conn.requests = [] ∧ conn.reading = .stopped ∧ s.serve ops c sending = s.stop c) := by
  simp only [State.serve, h]
  split
  · rename_i request later idle next
    exact .inl ⟨request, later, idle, next, handle_handled ops h idle next sending⟩
  · rename_i idle none ended
    exact .inr ⟨by simp [Connection.next?, idle, none], .inr ⟨idle, none, ended, rfl⟩⟩
  · rename_i more dry
    refine .inr ?_
    cases idle : conn.handler with
    | opening id task => simp [Connection.next?, Connection.canServe, idle]
    | stopped => simp [Connection.next?, Connection.canServe, idle]
    | idle =>
      cases none : conn.requests with
      | cons request later => exact absurd none (more request later idle)
      | nil =>
        cases ended : conn.reading with
        | stopped => exact (dry idle none ended).elim
        | frame | waiting => simp [Connection.next?, Connection.canServe, idle, none, ended]

theorem forward_cases (h : s.connections[c]? = some conn) (sending : Sending) :
    Handled s c conn sending [] (s.forward c sending) ∨ s.forward c sending = s := by
  unfold State.forward
  split
  · rename_i link reading requests n hconn
    obtain rfl : conn = _ := Option.some.inj (h.symm.trans hconn)
    -- What was received is what the relay's move does.
    have moved {item relay} (got : s.relay.recv n = some (item, relay)) :
        (s.relay.recv n).map (·.1) = some item ∧ relay = s.relay.move (.recv n) := by
      simp [Relay.State.move, got]
    split
    · rename_i e relay got
      obtain ⟨item, relayed⟩ := moved got
      have only : Only c s (s.setRelay relay) := fun _ _ => rfl
      exact .inl (reply_handled ⟨link, reading, requests, .idle, some n⟩ only h (.forwards rfl rfl)
        (.forwards item) relayed (Nat.zero_le _))
    · rename_i reason relay got
      obtain ⟨item, relayed⟩ := moved got
      have only : Only c s ((s.setRelay (relay.drop n)).put c
          ⟨link, reading, requests, .idle, none⟩) := put_only _ c _
      exact .inl (reply_handled ⟨link, reading, requests, .idle, some n⟩ only (put_self h _)
        (.forwards rfl (p := .streamEnded reason) rfl) (.ends item)
        (congrArg (·.drop n) relayed) (Nat.zero_le _))
    · exact .inr rfl
  · exact .inr rfl

theorem opening_handled (h : s.connections[c]? = some conn) {id : Identity} {task : Nat}
    (opening : conn.handler = .opening id task) {result : Except SessionError Identity}
    (named : ∀ other, result = .ok other → other = id)
    (set : t.connections = (s.put c { conn with handler := .idle }).connections)
    (relay : t.relay = s.relay) {rights : List Passed} (light : rights.length ≤ 1) :
    Handled s c conn sending [] (t.reply c sending (.openResponse result) rights) := by
  have only : Only c s t := fun d hd => by rw [set, put_only s c _ d hd]
  refine reply_handled conn only (by rw [set, put_self h]) (.concludes opening named)
    (.aside nofun fun q hq => ?_) relay light
  obtain rfl := Option.some.inj hq
  rfl

theorem conclude_handled (h : s.connections[c]? = some conn) {id : Identity} {task : Nat}
    (opening : conn.handler = .opening id task) {result : Opening.Result} {openings : Opening.State}
    (ready : s.manager.openings.collect task = (some result, openings)) (sending : Sending) :
    Handled s c conn sending [] (s.conclude c sending) := by
  simp only [State.conclude, h, opening, ready]
  cases result with
  | error e =>
    apply opening_handled h opening
    · nofun
    · rfl
    · rfl
    · exact Nat.zero_le _
  | ok dup =>
    apply Handled.setOpenings
    apply opening_handled h opening
    · exact fun other same => (Except.ok.inj same).symm
    · rfl
    · rfl
    · unfold State.fileOf
      cases s.manager.openings.duplicates[dup]? <;> simp

theorem conclude_cases (h : s.connections[c]? = some conn) (sending : Sending) :
    Handled s c conn sending [] (s.conclude c sending) ∨ s.conclude c sending = s := by
  cases opening : conn.handler with
  | idle | stopped => exact .inr (by simp [State.conclude, h, opening])
  | opening id task =>
    cases ready : s.manager.openings.collect task with
    | mk result openings =>
      cases result with
      | none => exact .inr (by simp [State.conclude, h, opening, ready])
      | some result => exact .inl (conclude_handled h opening ready sending)

theorem expire_handled (h : s.connections[c]? = some conn) {id : Identity} {task : Nat}
    (opening : conn.handler = .opening id task) (sending : Sending) :
    Handled s c conn sending [] (s.expire c sending) := by
  simp only [State.expire, h, opening]
  split
  · rename_i result openings ready
    exact conclude_handled h opening ready sending
  · apply opening_handled h opening
    · nofun
    · rfl
    · rfl
    · exact Nat.zero_le _

theorem expire_cases (h : s.connections[c]? = some conn) (sending : Sending) :
    Handled s c conn sending [] (s.expire c sending) ∨ s.expire c sending = s := by
  cases opening : conn.handler with
  | idle | stopped => exact .inr (by simp [State.expire, h, opening])
  | opening id task => exact .inl (expire_handled h opening sending)

end

end

end Daemon

end UsbBridge
