import HttpCall.Proofs.Client.Attempts
import Mathlib

/-!
# Stream parts are read once

A stream part of a multipart body can be taken once. Preparing the body goes through the
parts in order; it takes each stream part's source, leaving the part without one, and reads
the source to its end. It stops at the first part that `stops` it, a stream taken before or
one whose reading fails, with an error of the body, and leaves every later part as it was:
the parts are left `takenThrough` that part (`prepareParts_snd`, `prepareParts_fst_cases`).

A call checks its URL and, when it brings options of its own, builds an engine for itself
before it prepares the body. A call that fails either check takes nothing; one that gets
past them (`Call.ReachesPrepare`) leaves the parts taken through the first stop, whatever
its attempts do. A taken stream stops every later preparation, so once a call has reached
preparing, every later call that reaches it fails with an error of the body: a request
whose body has a stream part is prepared with success at most once, by the first call that
reaches preparing.

Main statement: `stream_parts_taken_once`.
-/

namespace HttpCall

namespace Part

/-- Does preparing stop at this part: a stream taken before, or one whose reading fails? -/
def stops (p : Part) : Bool :=
  match p.payload with
  | .stream none => true
  | .stream (some s) => s.readToEnd.1.2.isSome
  | _ => false

/-- The part with its stream taken; a part of another payload stays as it is. -/
def taken (p : Part) : Part := { p with payload := p.payload.take.2 }

/-- The parts as preparing leaves them: each part up to and including the first that stops
the preparation has its stream taken, and the parts after it are as they were. -/
def takenThrough (ps : List Part) : List Part :=
  (ps.take (ps.findIdx stops + 1)).map taken ++ ps.drop (ps.findIdx stops + 1)

theorem takenThrough_cons (p : Part) (ps : List Part) :
    takenThrough (p :: ps) = p.taken :: if p.stops then ps else takenThrough ps := by
  unfold takenThrough
  rw [List.findIdx_cons]
  cases p.stops <;> simp

/-- A stream taken before stays taken. -/
theorem taken_of_consumed {p : Part} (h : p.payload = .stream none) : p.taken = p := by
  obtain ⟨name, fileName, contentType, payload⟩ := p
  simp only at h
  subst h
  rfl

theorem stops_of_consumed {p : Part} (h : p.payload = .stream none) : p.stops = true := by
  simp [stops, h]

/-- Taking a stream part leaves it consumed. -/
theorem taken_payload {p : Part} {s : Option ByteSource} (h : p.payload = .stream s) :
    p.taken.payload = .stream none := by
  simp [taken, h, Payload.take]

/-- Only stream parts stop a preparation. -/
theorem isStream_of_stops {p : Part} (h : p.stops = true) : ∃ s, p.payload = .stream s := by
  unfold stops at h
  split at h
  · next hp => exact ⟨none, hp⟩
  · next s hp => exact ⟨some s, hp⟩
  · cases h

/-- A consumed part stays among the parts, however far preparing goes. -/
theorem mem_takenThrough_of_consumed {p : Part} {ps : List Part} (hp : p ∈ ps)
    (hc : p.payload = .stream none) : p ∈ takenThrough ps := by
  rw [← List.take_append_drop (ps.findIdx stops + 1) ps] at hp
  rcases List.mem_append.1 hp with h | h
  · exact List.mem_append_left _ (List.mem_map.2 ⟨p, h, taken_of_consumed hc⟩)
  · exact List.mem_append_right _ h

/-- Preparing takes a stream: the first stream part is consumed afterwards, whether a part
stopped the preparation or not. -/
theorem exists_consumed_takenThrough {ps : List Part}
    (hs : ∃ p ∈ ps, ∃ s, p.payload = .stream s) :
    ∃ p ∈ takenThrough ps, p.payload = .stream none := by
  induction ps with
  | nil => simp at hs
  | cons q ps ih =>
    rw [takenThrough_cons]
    by_cases hq : ∃ s, q.payload = .stream s
    · obtain ⟨s, hs'⟩ := hq
      exact ⟨q.taken, List.mem_cons_self, taken_payload hs'⟩
    · -- a part that is no stream does not stop, and the stream part comes later
      have hstop : q.stops = false := by
        cases h : q.stops
        · rfl
        · exact absurd (isStream_of_stops h) hq
      obtain ⟨p, hp, hps⟩ := hs
      rcases List.mem_cons.1 hp with rfl | hp
      · exact absurd hps hq
      · obtain ⟨p', hp', hc⟩ := ih ⟨p, hp, hps⟩
        rw [hstop]
        exact ⟨p', List.mem_cons_of_mem _ hp', hc⟩

end Part

namespace Entity

/-- Preparing a part leaves it with its stream taken. -/
theorem preparePart_snd (cs : Charset) (p : Part) : (preparePart cs p).2 = p.taken := by
  obtain ⟨name, fileName, contentType, payload⟩ := p
  cases payload with
  | stream source =>
    cases source with
    | none => rfl
    | some source =>
      simp only [preparePart]
      cases source.readToEnd.1 with
      | mk data err => cases err <;> rfl
  | _ => rfl

/-- Preparing a part fails, with an error of the body, exactly when the part stops it. -/
theorem preparePart_fst_cases (cs : Charset) (p : Part) :
    (p.stops = true ∧ ∃ msg, (preparePart cs p).1 = .error (.body msg)) ∨
      (p.stops = false ∧ ∃ q, (preparePart cs p).1 = .ok q) := by
  unfold preparePart Part.stops
  cases p.payload with
  | stream source =>
    cases source with
    | none => exact .inl ⟨rfl, _, rfl⟩
    | some source =>
      simp only
      cases source.readToEnd.1 with
      | mk data err => cases err <;> simp
  | _ => simp

/-- One step of preparing the parts: the first part is prepared and left taken, and only if
it is prepared do the others follow. -/
theorem prepareParts_cons (cs : Charset) (p : Part) (rest : List Part) :
    prepareParts cs (p :: rest) =
      match (preparePart cs p).1 with
      | .error e => (.error e, p.taken :: rest)
      | .ok q => ((prepareParts cs rest).1.map (q :: ·), p.taken :: (prepareParts cs rest).2) := by
  rw [prepareParts, ← preparePart_snd cs p]
  cases preparePart cs p with
  | mk result p' =>
    cases result with
    | error e => rfl
    | ok q =>
      cases prepareParts cs rest with
      | mk rest' parts => cases rest' <;> rfl

/-- Preparing the parts leaves them taken through the first that stops it. -/
theorem prepareParts_snd (cs : Charset) (ps : List Part) :
    (prepareParts cs ps).2 = Part.takenThrough ps := by
  induction ps with
  | nil => rfl
  | cons p ps ih =>
    rw [prepareParts_cons, Part.takenThrough_cons]
    rcases preparePart_fst_cases cs p with ⟨hstop, msg, he⟩ | ⟨hstop, q, hq⟩
    · -- the part stops the preparation: the parts after it are not touched
      rw [he, hstop, if_pos rfl]
    · rw [hq, hstop, ih]
      rfl

/-- Preparing the parts fails, with an error of the body, exactly when one of them stops it. -/
theorem prepareParts_fst_cases (cs : Charset) (ps : List Part) :
    (ps.any Part.stops = true ∧ ∃ msg, (prepareParts cs ps).1 = .error (.body msg)) ∨
      (ps.any Part.stops = false ∧ ∃ qs, (prepareParts cs ps).1 = .ok qs) := by
  induction ps with
  | nil => exact .inr ⟨rfl, [], rfl⟩
  | cons p ps ih =>
    rw [prepareParts_cons, List.any_cons]
    rcases preparePart_fst_cases cs p with ⟨hstop, msg, he⟩ | ⟨hstop, q, hq⟩
    · rw [he, hstop]
      exact .inl ⟨rfl, msg, rfl⟩
    · rw [hq, hstop, Bool.false_or]
      rcases ih with ⟨hany, msg, he⟩ | ⟨hany, qs, hqs⟩
      · exact .inl ⟨hany, msg, by rw [he]; rfl⟩
      · exact .inr ⟨hany, q :: qs, by rw [hqs]; rfl⟩

/-- Preparing a multipart request: its parts are left taken through the first stop, and the
preparation fails with an error of the body exactly when a part stops it. -/
theorem prepare_of_multipart {r : Request} {m : MultipartBody} (hb : r.body = some (.multipart m)) :
    (prepare r).2 =
        { r with body := some (.multipart { m with parts := Part.takenThrough m.parts }) } ∧
      ((m.parts.any Part.stops = true ∧ ∃ msg, (prepare r).1 = .error (.body msg)) ∨
        (m.parts.any Part.stops = false ∧ ∃ e, (prepare r).1 = .ok e)) := by
  have hsnd := prepareParts_snd m.charset m.parts
  have hfst := prepareParts_fst_cases m.charset m.parts
  simp only [prepare, hb]
  cases hp : prepareParts m.charset m.parts with
  | mk result parts =>
    rw [hp] at hsnd hfst
    simp only at hsnd hfst
    subst hsnd
    refine ⟨rfl, ?_⟩
    rcases hfst with ⟨hany, msg, rfl⟩ | ⟨hany, qs, rfl⟩
    · exact .inl ⟨hany, msg, rfl⟩
    · exact .inr ⟨hany, _, rfl⟩

end Entity

/-- A call on a request: the client that makes it, what the network answers, the files a
body may read, the boundary for a multipart body without one, and the options it brings. -/
structure Call where
  client : Client
  net : Network
  files : FileStore
  fresh : String
  options : Option Options

namespace Call

/-- What the call does with a request. -/
def run (k : Call) (r : Request) : CallOutcome :=
  k.client.execute k.net k.files k.fresh r k.options

/-- The call gets past its checks to preparing the body: the URL is an `http` or `https`
URL with a host, and an engine built for the call's own options can be built. -/
def ReachesPrepare (k : Call) (r : Request) : Prop :=
  (Url.parseHttp r.url).isOk = true ∧
    ((Client.effectiveOptions k.client.defaults k.options).2 = true →
      (Client.engineFor k.client.backend k.net.nativeBuild
        (Client.effectiveOptions k.client.defaults k.options).1).2.isOk = true)

/-- A call stopped by its URL or its engine leaves the request as it was and fails. -/
theorem run_of_not_reachesPrepare {k : Call} {r : Request} (h : ¬ k.ReachesPrepare r) :
    (k.run r).request = r ∧ ∃ e, (k.run r).result = .returned (.error e) := by
  unfold ReachesPrepare at h
  unfold run Client.execute Client.prepareCall
  cases hu : Url.parseHttp r.url with
  | error e => exact ⟨rfl, e, rfl⟩
  | ok url =>
    rw [hu] at h
    cases heo : Client.effectiveOptions k.client.defaults k.options with
    | mk o isScoped =>
      rw [heo] at h
      cases isScoped with
      | false => simp [Except.isOk, Except.toBool] at h
      | true =>
        cases he : Client.engineFor k.client.backend k.net.nativeBuild o with
        | mk logs result =>
          cases result with
          | error e => simp [he]
          | ok u => simp [he, Except.isOk, Except.toBool] at h

/-- A call that gets past its checks leaves the request as preparing left it, and fails with
the preparation's error when preparing fails. -/
theorem run_of_reachesPrepare {k : Call} {r : Request} (h : k.ReachesPrepare r) :
    (k.run r).request = (Entity.prepare r).2 ∧
      ∀ e, (Entity.prepare r).1 = .error e → (k.run r).result = .returned (.error e) := by
  obtain ⟨hu, he⟩ := h
  unfold run Client.execute Client.prepareCall
  cases hu' : Url.parseHttp r.url with
  | error e => rw [hu'] at hu; cases hu
  | ok url =>
    cases heo : Client.effectiveOptions k.client.defaults k.options with
    | mk o isScoped =>
      rw [heo] at he
      -- the engine is there: the client's own, or one built for the call
      have hengine : ∃ logs, (if isScoped = true then
          (k.client.backend.scopedLog r.method r.url ::
              (Client.engineFor k.client.backend k.net.nativeBuild o).1,
            (Client.engineFor k.client.backend k.net.nativeBuild o).2) else ([], .ok ())) =
          (logs, .ok ()) := by
        cases isScoped with
        | false => exact ⟨[], rfl⟩
        | true =>
          cases hb : Client.engineFor k.client.backend k.net.nativeBuild o with
          | mk logs result =>
            cases result with
            | error e => simp [hb, Except.isOk, Except.toBool] at he
            | ok u => exact ⟨_, rfl⟩
      obtain ⟨logs, hlogs⟩ := hengine
      simp only
      rw [hlogs]
      cases hp : Entity.prepare r with
      | mk result r' =>
        cases result with
        | error e => simp
        | ok entity =>
          rcases hw : Client.wireOf k.files k.fresh r entity with e | ⟨headers, b⟩ <;> simp [hw]

end Call

/-- The request as calls made one after another leave it, each call on the request the one
before left. -/
def Call.after : List Call → Request → Request
  | [], r => r
  | k :: ks, r => after ks (k.run r).request

/-- Some call of a sequence got to preparing the body. -/
def Call.SomeReachPrepare : List Call → Request → Prop
  | [], _ => False
  | k :: ks, r => k.ReachesPrepare r ∨ SomeReachPrepare ks (k.run r).request

namespace Request

/-- The request's body is a multipart body with a stream part. -/
def HasStreamPart (r : Request) : Prop :=
  ∃ m, r.body = some (.multipart m) ∧ ∃ p ∈ m.parts, ∃ s, p.payload = .stream s

/-- The request's body is a multipart body with a stream part that has been taken. -/
def HasTakenStream (r : Request) : Prop :=
  ∃ m, r.body = some (.multipart m) ∧ ∃ p ∈ m.parts, p.payload = .stream none

/-- The request a call leaves: the same, or its parts taken through the first stop. -/
theorem run_request_cases (k : Call) {r : Request} {m : MultipartBody}
    (hb : r.body = some (.multipart m)) :
    (k.run r).request = r ∨
      (k.run r).request =
        { r with body := some (.multipart { m with parts := Part.takenThrough m.parts }) } := by
  by_cases hk : k.ReachesPrepare r
  · rw [(Call.run_of_reachesPrepare hk).1, (Entity.prepare_of_multipart hb).1]
    exact .inr rfl
  · exact .inl (Call.run_of_not_reachesPrepare hk).1

/-- Every call keeps a stream part a stream part. -/
theorem HasStreamPart.run {r : Request} (h : r.HasStreamPart) (k : Call) :
    (k.run r).request.HasStreamPart := by
  obtain ⟨m, hb, p, hp, s, hs⟩ := h
  rcases run_request_cases k hb with heq | heq
  · rw [heq]; exact ⟨m, hb, p, hp, s, hs⟩
  · rw [heq]
    obtain ⟨p', hp', hc⟩ := Part.exists_consumed_takenThrough ⟨p, hp, s, hs⟩
    exact ⟨_, rfl, p', hp', none, hc⟩

/-- Every call keeps a taken stream taken. -/
theorem HasTakenStream.run {r : Request} (h : r.HasTakenStream) (k : Call) :
    (k.run r).request.HasTakenStream := by
  obtain ⟨m, hb, p, hp, hc⟩ := h
  rcases run_request_cases k hb with heq | heq
  · rw [heq]; exact ⟨m, hb, p, hp, hc⟩
  · rw [heq]
    exact ⟨_, rfl, p, Part.mem_takenThrough_of_consumed hp hc, hc⟩

theorem HasTakenStream.after {r : Request} (h : r.HasTakenStream) :
    ∀ ks : List Call, (Call.after ks r).HasTakenStream
  | [] => h
  | k :: ks => HasTakenStream.after (h.run k) ks

/-- A call that reaches preparing takes a stream. -/
theorem HasStreamPart.run_of_reachesPrepare {r : Request} (h : r.HasStreamPart) {k : Call}
    (hk : k.ReachesPrepare r) : (k.run r).request.HasTakenStream := by
  obtain ⟨m, hb, hs⟩ := h
  rw [(Call.run_of_reachesPrepare hk).1, (Entity.prepare_of_multipart hb).1]
  obtain ⟨p, hp, hc⟩ := Part.exists_consumed_takenThrough hs
  exact ⟨_, rfl, p, hp, hc⟩

/-- After a sequence of calls of which one reached preparing, a stream has been taken. -/
theorem HasStreamPart.after_of_someReachPrepare :
    ∀ {ks : List Call} {r : Request}, r.HasStreamPart → Call.SomeReachPrepare ks r →
      (Call.after ks r).HasTakenStream
  | [], _, _, h => h.elim
  | k :: ks, r, hs, h => by
    rcases h with hk | h
    · exact (hs.run_of_reachesPrepare hk).after ks
    · exact @HasStreamPart.after_of_someReachPrepare ks (k.run r).request (hs.run k) h

/-- A request with a taken stream fails to prepare, with an error of the body. -/
theorem HasTakenStream.prepare_fails {r : Request} (h : r.HasTakenStream) :
    ∃ msg, (Entity.prepare r).1 = .error (.body msg) := by
  obtain ⟨m, hb, p, hp, hc⟩ := h
  rcases (Entity.prepare_of_multipart hb).2 with ⟨-, msg, he⟩ | ⟨hany, -⟩
  · exact ⟨msg, he⟩
  · have := List.any_eq_false.1 hany p hp
    rw [Part.stops_of_consumed hc] at this
    cases this rfl

end Request

/-- **Stream parts are taken once.** Take a request whose body is a multipart body `m`.
A call stopped by its URL check or by building its own engine fails and leaves the request
as it was. A call that gets past both leaves the parts taken through the first that stops
the preparation (a stream taken before, or one whose reading fails), the later ones as they
were; if a part stops it, preparing fails with an error of the body and so does the call,
and otherwise preparing succeeds. When the body has a stream part, once any call of a
sequence has reached preparing, every later call that reaches it fails there with an error
of the body: at most one preparation of the request succeeds. -/
theorem stream_parts_taken_once {r : Request} {m : MultipartBody}
    (hb : r.body = some (.multipart m)) :
    (∀ k : Call, ¬ k.ReachesPrepare r →
      (k.run r).request = r ∧ ∃ e, (k.run r).result = .returned (.error e)) ∧
      (∀ k : Call, k.ReachesPrepare r →
        (k.run r).request =
            { r with body := some (.multipart { m with parts := Part.takenThrough m.parts }) } ∧
          ((m.parts.any Part.stops = true ∧ ∃ msg, (Entity.prepare r).1 = .error (.body msg) ∧
              (k.run r).result = .returned (.error (.body msg))) ∨
            (m.parts.any Part.stops = false ∧ ∃ e, (Entity.prepare r).1 = .ok e))) ∧
      ((∃ p ∈ m.parts, ∃ s, p.payload = .stream s) →
        ∀ (ks : List Call) (k : Call), Call.SomeReachPrepare ks r →
          k.ReachesPrepare (Call.after ks r) →
          ∃ msg, (Entity.prepare (Call.after ks r)).1 = .error (.body msg) ∧
            (k.run (Call.after ks r)).result = .returned (.error (.body msg))) := by
  refine ⟨fun k hk => Call.run_of_not_reachesPrepare hk, fun k hk => ?_,
    fun hs ks k hks hk => ?_⟩
  · obtain ⟨hreq, hres⟩ := Call.run_of_reachesPrepare hk
    obtain ⟨hleft, hcases⟩ := Entity.prepare_of_multipart hb
    refine ⟨hreq.trans hleft, ?_⟩
    rcases hcases with ⟨hany, msg, he⟩ | hok
    · exact .inl ⟨hany, msg, he, hres _ he⟩
    · exact .inr hok
  · have htaken := Request.HasStreamPart.after_of_someReachPrepare ⟨m, hb, hs⟩ hks
    obtain ⟨msg, he⟩ := htaken.prepare_fails
    exact ⟨msg, he, (Call.run_of_reachesPrepare hk).2 _ he⟩

/-- A request whose multipart body has one stream part. -/
theorem one_stream_part_taken_once :
    let m : MultipartBody := ⟨some "b", .utf8, [Part.stream "a" (ByteSource.ofBytes [1, 2])]⟩
    let r : Request := ⟨.post, "http://example.com/", {}, some (.multipart m)⟩
    r.body = some (.multipart m) ∧
      (∀ k : Call, ¬ k.ReachesPrepare r →
        (k.run r).request = r ∧ ∃ e, (k.run r).result = .returned (.error e)) ∧
      (∀ k : Call, k.ReachesPrepare r →
        (k.run r).request =
            { r with body := some (.multipart { m with parts := Part.takenThrough m.parts }) } ∧
          ((m.parts.any Part.stops = true ∧ ∃ msg, (Entity.prepare r).1 = .error (.body msg) ∧
              (k.run r).result = .returned (.error (.body msg))) ∨
            (m.parts.any Part.stops = false ∧ ∃ e, (Entity.prepare r).1 = .ok e))) ∧
      ((∃ p ∈ m.parts, ∃ s, p.payload = .stream s) →
        ∀ (ks : List Call) (k : Call), Call.SomeReachPrepare ks r →
          k.ReachesPrepare (Call.after ks r) →
          ∃ msg, (Entity.prepare (Call.after ks r)).1 = .error (.body msg) ∧
            (k.run (Call.after ks r)).result = .returned (.error (.body msg))) :=
  ⟨rfl, stream_parts_taken_once rfl⟩

end HttpCall
