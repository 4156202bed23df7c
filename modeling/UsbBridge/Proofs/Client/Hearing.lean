import UsbBridge.Proofs.Daemon.Completion

/-!
# Hearing what was written

Of whole frames that are written to it one after the other a consumer has received the first few,
and the beginning of the next one (`Heard`). A receive call brings it on by some bytes, or to the
message that comes next, but never to an error (`Heard.receive`).
-/

namespace UsbBridge.Client

open Socket
open Receiver (Reading Accepts)
open Daemon (said understood)
open UsbBridge.Frame (limit front)

def Framed (written : List UInt8) : Prop :=
  ∃ payloads : List Payload, written = payloads.flatMap Payload.frame ∧
    ∀ p ∈ payloads, (Message.ofPayload p).encode.length ≤ limit

/-- Of what was written these payloads have been received, and these bytes of what comes next; the
others are under way. -/
structure Heard (written : List UInt8) (c : Channel α) (got : List Payload) (part : List UInt8) :
    Prop where
  all : written = got.flatMap Payload.frame ++ (part ++ c.bytes)
  small : ∀ p ∈ got, (Message.ofPayload p).encode.length ≤ limit
  going : c.sending = true
  solid : Solid c.chunks
  light : Light c.chunks

section
variable {written : List UInt8} {c : Channel α} {r : Receiver α} {got : List Payload}
variable {part : List UInt8} {p : Payload} {most : Nat}

theorem expected_frame (small : (Message.ofPayload p).encode.length ≤ limit) (rest : List UInt8) :
    expected (p.frame ++ rest) = (.ok (some (.ofPayload p)), rest) := by
  rw [Payload.frame, expected, Frame.front_wrap small]
  simp [resultOf, Daemon.decode_payload small]

theorem said_short {n : Nat} {s : List UInt8} (short : front s = .short n) : said s = [] := by
  rw [said, Daemon.understood_short short, List.map_nil]

theorem Heard.said_eq (h : Heard written c got part) :
    said written = got ++ said (part ++ c.bytes) := by
  rw [h.all, Daemon.said_append h.small]

theorem Heard.rest (h : Heard written c got part) (framed : Framed written) :
    Framed (part ++ c.bytes) := by
  obtain ⟨payloads, hwritten, small⟩ := framed
  have hsaid := h.said_eq
  rw [hwritten, Daemon.said_frames small] at hsaid
  refine ⟨said (part ++ c.bytes), ?_, fun p hp => small p ?_⟩
  · have hall := h.all
    rw [hwritten, hsaid, List.flatMap_append, List.append_cancel_left_eq] at hall
    exact hall.symm
  · rw [hsaid]
    exact List.mem_append_right _ hp

inductive Hears (written : List UInt8) (c : Channel α) (got : List Payload) (part : List UInt8) :
    Option (Receiver.Progress α × Channel α) → Prop
  | blocked : Hears written c got part none
  | reading {q bytes left} (reading : Reading q (part ++ bytes))
      (h : Heard written { c with chunks := left } got (part ++ bytes)) :
      Hears written c got part (some (.reading q, { c with chunks := left }))
  | message {p rights closed left} (next : got ++ [p] <+: said written)
      (h : Heard written { c with chunks := left } (got ++ [p]) []) : Hears written c got part
        (some (.done (.message (.ofPayload p) rights) closed, { c with chunks := left }))

theorem outcome_next {s rest taken : List UInt8} {rights closed : List α} {outcome : Outcome α}
    (framed : Framed s) (accepts : Accepts taken rights (.done outcome closed))
    (all : s = taken ++ rest) : ∃ p, outcome = .message (.ofPayload p) rights ∧
      (Message.ofPayload p).encode.length ≤ limit ∧ s = p.frame ++ rest := by
  obtain ⟨payloads, hs, small⟩ := framed
  have nonempty : taken ≠ [] := by
    cases accepts with
    | message whole | malformed whole =>
      rw [whole]
      exact List.cons_ne_nil _ _
    | oversized head =>
      rintro rfl
      cases head
  have hresult := accepts.expected rest
  rw [← all] at hresult
  cases payloads with
  | nil =>
    rw [hs] at all
    exact absurd (List.append_eq_nil_iff.mp all.symm).1 nonempty
  | cons p later =>
    have hp := small p List.mem_cons_self
    rw [hs, List.flatMap_cons, expected_frame hp, Prod.mk.injEq] at hresult
    obtain ⟨hresult, hrest⟩ := hresult
    refine ⟨p, ?_, hp, by rw [hs, List.flatMap_cons, hrest]⟩
    cases accepts with
    | message => rw [(Option.some.inj (Except.ok.inj hresult))]
    | malformed | oversized => cases hresult

theorem Heard.receive (h : Heard written c got part) (framed : Framed written)
    (reading : Reading r part) (most : Nat) : Hears written c got part (r.step? most c) := by
  have receives := receive_receives c (min most r.wanted) h.solid
  generalize got_ : c.receive (min most r.wanted) = result at receives
  cases receives with
  | blocked =>
    rw [Receiver.step?, got_]
    exact .blocked
  | ended empty shut =>
    rw [h.going] at shut
    cases shut
  | overflow g many =>
    have := (g.few h.light).1
    omega
  | @data bytes rights left g =>
    rw [Receiver.step?_eq got_]
    have light := (g.few h.light).2
    have accepts := Receiver.accept_data reading (Nat.le_trans g.fits (Nat.min_le_right _ _)) rights
    have hbytes : part ++ c.bytes = (part ++ bytes) ++ bytesOf left := by
      rw [bytes_eq, g.allBytes, List.append_assoc]
    generalize r.accept (.data bytes rights) = progress at accepts
    cases progress with
    | reading q =>
      cases accepts with
      | reading further => exact .reading further ⟨hbytes ▸ h.all, h.small, h.going, g.solid, light⟩
    | done outcome closed =>
      obtain ⟨p, rfl, hp, hnext⟩ := outcome_next (h.rest framed) accepts hbytes
      have small : ∀ q ∈ got ++ [p], (Message.ofPayload q).encode.length ≤ limit :=
        List.forall_mem_append.mpr ⟨h.small, List.forall_mem_singleton.mpr hp⟩
      have now : Heard written { c with chunks := left } (got ++ [p]) [] := by
        refine ⟨?_, small, h.going, g.solid, light⟩
        rw [h.all, hnext, List.flatMap_append]
        simp [bytes_eq]
      exact .message (now.said_eq ▸ List.prefix_append _ _) now

end

end UsbBridge.Client
