import HttpCall.Client.Execute
import HttpCall.Proofs.Header.Values

/-!
# The headers sent with a request

An engine sends the request's header pairs in their order, entry by entry, except for three
names that the client manages itself, compared with ASCII case folded: `Content-Length`
is never sent, since the engine frames the body; `Accept: */*` follows the request's pairs
when it has no `Accept` header; and when the entity sets a content type, the request's
`Content-Type` pairs give way to it, sent last.

Main statement (`outgoing_headers_manage_length_accept_type`): for a request whose entity
is prepared and framed, and whose header entries hold values, the headers sent carry no
`Content-Length`; one `Accept: */*`, or else the request's own `Accept` pairs; with a body,
the resolved content type, or the multipart type with its boundary, at most once and
exactly when the body declares a type or the request names one; without a body, the
request's own `Content-Type` pairs; and the request's other pairs in their order, with no
other pair.
-/

namespace HttpCall

open HeaderMap

namespace Entity

/-- A pair the client passes on as the request has it: named none of `Content-Length`,
`Accept` and `Content-Type`. -/
def unmanaged (pair : String × String) : Bool :=
  !isNamed "Content-Length" pair && !isNamed acceptHeader pair &&
    !isNamed Request.contentTypeHeader pair

/-- The headers sent with an entity: the request's pairs that are kept, and `Accept: */*`
when the request has no `Accept` header. -/
theorem outgoingHeaders_eq (r : Request) (e : Option Entity) :
    outgoingHeaders r e =
      r.headers.pairs.filter (fun p => !isNamed "Content-Length" p &&
          !(setsContentType e && isNamed Request.contentTypeHeader p)) ++
        if r.headers.contains acceptHeader then [] else [(acceptHeader, "*/*")] := by
  unfold outgoingHeaders
  split
  · exact (List.append_nil _).symm
  · rfl

section Sent

variable (r : Request) (e : Option Entity) (ct? : Option String)

/-- Filtering the kept pairs by a kind of pair that is never `Content-Length`, and no
`Content-Type` when the entity sets one, gives the request's pairs of that kind. -/
theorem filter_kept (q : String × String → Bool)
    (hq : ∀ p, q p = true → isNamed "Content-Length" p = false ∧
      (setsContentType e = true → isNamed Request.contentTypeHeader p = false)) :
    (r.headers.pairs.filter (fun p => !isNamed "Content-Length" p &&
        !(setsContentType e && isNamed Request.contentTypeHeader p))).filter q =
      r.headers.pairs.filter q := by
  rw [List.filter_filter]
  apply List.filter_congr
  intro p _
  cases hqp : q p with
  | false => simp
  | true =>
    obtain ⟨hlen, htype⟩ := hq p hqp
    cases hsets : setsContentType e with
    | false => simp [hlen]
    | true => simp [hlen, htype hsets]

/-- No header sent is named `Content-Length`. -/
theorem sent_not_contentLength :
    ∀ p ∈ outgoingHeaders r e ++ (ct?.map fun ct => (Request.contentTypeHeader, ct)).toList,
      isNamed "Content-Length" p = false := by
  intro p hp
  rw [outgoingHeaders_eq, List.mem_append, List.mem_append] at hp
  rcases hp with (hkept | hadded) | htype
  · simp only [List.mem_filter, Bool.and_eq_true, Bool.not_eq_eq_eq_not, Bool.not_true] at hkept
    exact hkept.2.1
  · split at hadded
    · simp at hadded
    · rw [List.mem_singleton] at hadded
      subst hadded
      decide
  · cases ct? with
    | none => simp at htype
    | some ct =>
      rw [Option.map_some, Option.toList_some, List.mem_singleton] at htype
      subst htype
      simp only [isNamed_mk]
      decide

/-- The `Accept` pairs sent are the request's own, or `Accept: */*` when it has none. -/
theorem filter_sent_accept :
    (outgoingHeaders r e ++ (ct?.map fun ct => (Request.contentTypeHeader, ct)).toList).filter
        (isNamed acceptHeader) =
      if r.headers.contains acceptHeader then r.headers.pairs.filter (isNamed acceptHeader)
      else [(acceptHeader, "*/*")] := by
  have hkept := filter_kept r e (isNamed acceptHeader) fun p hp =>
    ⟨isNamed_eq_false_of_isNamed (by decide) hp,
      fun _ => isNamed_eq_false_of_isNamed (by decide) hp⟩
  have htype : (ct?.map fun ct => (Request.contentTypeHeader, ct)).toList.filter
      (isNamed acceptHeader) = [] := by
    cases ct? with
    | none => rfl
    | some ct =>
      have hapart : Ascii.eqFold Request.contentTypeHeader acceptHeader = false := by decide
      simp [hapart]
  rw [outgoingHeaders_eq, List.filter_append, List.filter_append, hkept, htype, List.append_nil]
  split
  · exact List.append_nil _
  · rename_i hno
    rw [filter_pairs_isNamed_of_not_contains (Bool.eq_false_iff.2 hno)]
    rfl

/-- The `Content-Type` pairs sent are the entity's when it sets one, and the request's own
otherwise. -/
theorem filter_sent_contentType (hsets : setsContentType e = ct?.isSome) :
    (outgoingHeaders r e ++ (ct?.map fun ct => (Request.contentTypeHeader, ct)).toList).filter
        (isNamed Request.contentTypeHeader) =
      ct?.elim (r.headers.pairs.filter (isNamed Request.contentTypeHeader))
        fun ct => [(Request.contentTypeHeader, ct)] := by
  have hadded : (if r.headers.contains acceptHeader then [] else [(acceptHeader, "*/*")]).filter
      (isNamed Request.contentTypeHeader) = [] := by
    split
    · rfl
    · decide
  rw [outgoingHeaders_eq, List.filter_append, List.filter_append, hadded, List.append_nil]
  cases ct? with
  | none =>
    have hnone : setsContentType e = false := hsets
    rw [filter_kept r e (isNamed Request.contentTypeHeader) fun p hp =>
      ⟨isNamed_eq_false_of_isNamed (by decide) hp, fun hs => by rw [hnone] at hs; cases hs⟩]
    exact List.append_nil _
  | some ct =>
    have hsome : setsContentType e = true := hsets
    -- the entity's type replaces every `Content-Type` pair of the request
    have hkept : (r.headers.pairs.filter (fun p => !isNamed "Content-Length" p &&
        !(setsContentType e && isNamed Request.contentTypeHeader p))).filter
          (isNamed Request.contentTypeHeader) = [] := by
      rw [List.filter_filter, List.filter_eq_nil_iff]
      intro p _ hp
      simp only [hsome, Bool.true_and, Bool.and_eq_true, Bool.not_eq_eq_eq_not, Bool.not_true] at hp
      obtain ⟨htype, -, hnot⟩ := hp
      rw [htype] at hnot
      cases hnot
    rw [hkept, List.nil_append]
    simp

/-- The request's pairs of no managed name are sent in their order, and no other pair of
no managed name is. -/
theorem filter_sent_unmanaged :
    (outgoingHeaders r e ++ (ct?.map fun ct => (Request.contentTypeHeader, ct)).toList).filter
        unmanaged =
      r.headers.pairs.filter unmanaged := by
  have hkept := filter_kept r e unmanaged fun p hp => by
    simp only [unmanaged, Bool.and_eq_true, Bool.not_eq_eq_eq_not, Bool.not_true] at hp
    exact ⟨hp.1.1, fun _ => hp.2⟩
  have hadded : (if r.headers.contains acceptHeader then [] else [(acceptHeader, "*/*")]).filter
      unmanaged = [] := by
    split
    · rfl
    · decide
  have htype : (ct?.map fun ct => (Request.contentTypeHeader, ct)).toList.filter unmanaged = [] := by
    cases ct? with
    | none => rfl
    | some ct => simp [unmanaged]
  rw [outgoingHeaders_eq, List.filter_append, List.filter_append, hkept, hadded, htype]
  simp

end Sent

end Entity

namespace PreparedMultipart

variable {files : FileStore} {fresh : String}

/-- A framed multipart body is its parts framed with its own boundary, or `fresh`, and goes
with the multipart type that names that boundary. -/
theorem encode_eq_ok {m : PreparedMultipart} {w : Wire} (h : m.encode files fresh = .ok w) :
    m.frameParts files (m.boundary.getD fresh) m.parts = .ok w.data ∧
      w.contentType = some ("multipart/form-data; boundary=" ++ m.boundary.getD fresh ++
        "; charset=" ++ m.charset.name) := by
  dsimp only [encode] at h
  cases hf : m.frameParts files (m.boundary.getD fresh) m.parts with
  | error err =>
    rw [hf] at h
    cases h
  | ok data =>
    rw [hf] at h
    cases h
    exact ⟨rfl, rfl⟩

end PreparedMultipart

namespace Entity

variable {files : FileStore} {fresh : String} {r r' : Request} {e : Option Entity}

/-- An entity framed for the wire goes with a content type exactly when it sets one. -/
theorem setsContentType_of_toWire {x : Entity} {w : Wire} (h : x.toWire files fresh = .ok w) :
    setsContentType (some x) = w.contentType.isSome := by
  cases x with
  | bytes data ct =>
    cases h
    rfl
  | multipart m =>
    rw [(PreparedMultipart.encode_eq_ok h).2]
    rfl

/-- A body that is no multipart body is prepared into its bytes with the request's resolved
content type. -/
theorem prepare_bytes {b : RequestBody} (hb : r.body = some b) (hnm : ∀ m, b ≠ .multipart m)
    (h : prepare r = (.ok e, r')) :
    ∃ data x, r.resolveContentType = .ok x ∧ e = some (.bytes data (x.map MediaType.render)) := by
  cases b with
  | raw data ct =>
    simp only [prepare, hb] at h
    cases hres : r.resolveContentType with
    | error err =>
      rw [hres] at h
      cases h
    | ok x =>
      rw [hres] at h
      cases h
      exact ⟨data, x, rfl, rfl⟩
  | form f =>
    simp only [prepare, hb, Prod.mk.injEq, Except.ok.injEq] at h
    refine ⟨_, some f.contentType, ?_, h.1.symm⟩
    simp [Request.resolveContentType, hb, RequestBody.contentType?]
  | multipart m => exact absurd rfl (hnm m)

/-- A multipart body is prepared into its boundary and charset with its parts ready, as
`prepareParts` readies them. -/
theorem prepare_multipart {m : MultipartBody} (hb : r.body = some (.multipart m))
    (h : prepare r = (.ok e, r')) :
    ∃ ps parts, prepareParts m.charset m.parts = (.ok ps, parts) ∧
      e = some (.multipart ⟨m.boundary, m.charset, ps⟩) := by
  simp only [prepare, hb] at h
  cases hp : prepareParts m.charset m.parts with
  | mk result parts =>
    rw [hp] at h
    cases result with
    | error err => cases h
    | ok ps =>
      simp only [Except.map, Prod.mk.injEq, Except.ok.injEq] at h
      exact ⟨ps, parts, rfl, h.1.symm⟩

end Entity

namespace Request

/-- With header entries that hold values, a request resolves to a content type exactly when
its body declares one or it names one in its headers. -/
theorem resolveContentType_isSome {r : Request} {x : Option MediaType}
    (hv : r.headers.HasValues) (h : r.resolveContentType = .ok x) :
    x.isSome = ((r.body.bind RequestBody.contentType?).isSome ||
      r.headers.contains contentTypeHeader) := by
  have hget : (r.headers.get? contentTypeHeader).isSome = r.headers.contains contentTypeHeader :=
    hv.get?_isSome
  unfold resolveContentType at h
  cases hd : r.body.bind RequestBody.contentType? with
  | some m =>
    simp only [hd, Except.ok.injEq] at h
    subst h
    rfl
  | none =>
    cases hg : r.headers.get? contentTypeHeader with
    | none =>
      simp only [hd, hg, Except.ok.injEq] at h
      subst h
      rw [hg] at hget
      simpa using hget
    | some value =>
      simp only [hd, hg] at h
      -- the header's value is read as a media type, which succeeded
      cases hm : MediaType.parse value with
      | error err =>
        rw [hm] at h
        cases h
      | ok m =>
        rw [hm] at h
        cases h
        rw [hg] at hget
        simpa using hget

end Request

namespace Client

/-- The headers a framed entity is sent with: the outgoing headers, and the entity's
content type on the wire when it has one, which it has exactly when it sets one. -/
theorem wireOf_eq_ok {files : FileStore} {fresh : String} {r : Request} {e : Option Entity}
    {H : List (String × String)} {data : Option (List UInt8)}
    (h : wireOf files fresh r e = .ok (H, data)) :
    ∃ ct?, H = Entity.outgoingHeaders r e ++
        (ct?.map fun ct => (Request.contentTypeHeader, ct)).toList ∧
      Entity.setsContentType e = ct?.isSome ∧
      ∀ x, e = some x → ∃ w, x.toWire files fresh = .ok w ∧ w.contentType = ct? := by
  cases e with
  | none =>
    cases h
    exact ⟨none, (List.append_nil _).symm, rfl, fun x hx => by cases hx⟩
  | some x =>
    dsimp only [wireOf] at h
    cases hw : x.toWire files fresh with
    | error err =>
      rw [hw] at h
      cases h
    | ok w =>
      rw [hw] at h
      cases h
      exact ⟨w.contentType, rfl, Entity.setsContentType_of_toWire hw,
        fun y hy => by cases hy; exact ⟨w, hw, rfl⟩⟩

end Client

namespace Entity

variable {files : FileStore} {fresh : String} {r r' : Request} {e : Option Entity}
  {ct? : Option String}

/-- The `Content-Type` pairs a request is sent with: without a body, the request's own; with
a multipart body, its type naming the boundary that frames it, `fresh` when the body has
none of its own; with another body, its resolved content type, if there is one. -/
def sentContentTypes (fresh : String) (r : Request) : List (String × String) :=
  match r.body, r.resolveContentType with
  | none, _ => r.headers.pairs.filter (isNamed Request.contentTypeHeader)
  | some (.multipart m), _ =>
    [(Request.contentTypeHeader, "multipart/form-data; boundary=" ++ m.boundary.getD fresh ++
      "; charset=" ++ m.charset.name)]
  | some _, .ok (some m) => [(Request.contentTypeHeader, m.render)]
  | some _, _ => []

theorem sentContentTypes_of_bytes {b : RequestBody} {x : Option MediaType}
    (hb : r.body = some b) (hnm : ∀ m, b ≠ .multipart m) (hres : r.resolveContentType = .ok x) :
    sentContentTypes fresh r = (x.map fun m => (Request.contentTypeHeader, m.render)).toList := by
  cases b with
  | multipart m => exact absurd rfl (hnm m)
  | raw data ct | form f => cases x <;> simp [sentContentTypes, hb, hres]

/-- The `Content-Type` pairs sent with a prepared and framed entity are `sentContentTypes`. -/
theorem filter_sent_eq_sentContentTypes (hv : r.headers.HasValues)
    (hprep : prepare r = (.ok e, r')) (hsets : setsContentType e = ct?.isSome)
    (hwire : ∀ x, e = some x → ∃ w, x.toWire files fresh = .ok w ∧ w.contentType = ct?) :
    (outgoingHeaders r e ++ (ct?.map fun ct => (Request.contentTypeHeader, ct)).toList).filter
        (isNamed Request.contentTypeHeader) =
      sentContentTypes fresh r := by
  rw [filter_sent_contentType r e ct? hsets]
  cases hb : r.body with
  | none =>
    -- nothing is prepared for a request without a body
    have he : e = none := by
      simp only [prepare, hb, Prod.mk.injEq, Except.ok.injEq] at hprep
      exact hprep.1.symm
    subst he
    have hct : ct? = none := by
      cases ct? with
      | none => rfl
      | some ct => cases hsets
    simp [sentContentTypes, hb, hct]
  | some b =>
    by_cases hmp : ∃ m, b = .multipart m
    · obtain ⟨m, rfl⟩ := hmp
      obtain ⟨ps, -, -, rfl⟩ := prepare_multipart hb hprep
      obtain ⟨w, hw, hct⟩ := hwire _ rfl
      rw [← hct, (PreparedMultipart.encode_eq_ok hw).2]
      simp [sentContentTypes, hb]
    · have hnm : ∀ m, b ≠ .multipart m := fun m hm => hmp ⟨m, hm⟩
      obtain ⟨data, x, hres, rfl⟩ := prepare_bytes hb hnm hprep
      obtain ⟨w, hw, hct⟩ := hwire _ rfl
      cases hw
      rw [← hct, sentContentTypes_of_bytes hb hnm hres]
      cases x with
      | some m => rfl
      | none =>
        -- no type was resolved, so the request names none and has no such pair
        have hno : r.headers.contains Request.contentTypeHeader = false := by
          have hsome := Request.resolveContentType_isSome hv hres
          simp only [Option.isSome_none, hb, Option.bind_some] at hsome
          exact (Bool.or_eq_false_iff.1 hsome.symm).2
        simp [filter_pairs_isNamed_of_not_contains hno]

/-- With a prepared body, a request is sent with at most one `Content-Type` pair, and with
one exactly when its body declares a type or the request names one. -/
theorem sentContentTypes_present (hv : r.headers.HasValues) (hprep : prepare r = (.ok e, r'))
    (hbody : r.hasBody = true) :
    (sentContentTypes fresh r).length ≤ 1 ∧
      (sentContentTypes fresh r ≠ [] ↔ (r.body.bind RequestBody.contentType?).isSome = true ∨
        r.headers.contains Request.contentTypeHeader = true) := by
  obtain ⟨b, hb⟩ := Option.isSome_iff_exists.1 hbody
  by_cases hmp : ∃ m, b = .multipart m
  · obtain ⟨m, rfl⟩ := hmp
    simp [sentContentTypes, hb, RequestBody.contentType?]
  · have hnm : ∀ m, b ≠ .multipart m := fun m hm => hmp ⟨m, hm⟩
    obtain ⟨data, x, hres, -⟩ := prepare_bytes hb hnm hprep
    have hsome := Request.resolveContentType_isSome hv hres
    rw [sentContentTypes_of_bytes hb hnm hres]
    cases x with
    | none =>
      simp only [Option.isSome_none] at hsome
      simpa [Bool.or_eq_false_iff] using hsome.symm
    | some m =>
      simp only [Option.isSome_some] at hsome
      simpa [Bool.or_eq_true] using hsome.symm

/-- What the headers `H` sent with a request `r` are, with `fresh` the boundary of a multipart
body that has none of its own. -/
structure SentHeaders (fresh : String) (r : Request) (H : List (String × String)) : Prop where
  /-- No pair is named `Content-Length`. -/
  noLength : ∀ p ∈ H, isNamed "Content-Length" p = false
  /-- The `Accept` pairs are the request's own, or `Accept: */*` alone when it has none. -/
  accept : H.filter (isNamed acceptHeader) =
    if r.headers.contains acceptHeader then r.headers.pairs.filter (isNamed acceptHeader)
    else [(acceptHeader, "*/*")]
  /-- The `Content-Type` pairs are those of `sentContentTypes`. -/
  contentType : H.filter (isNamed Request.contentTypeHeader) = sentContentTypes fresh r
  /-- With a body there is at most one `Content-Type` pair, and there is one exactly when the
  body declares a type, as forms and multipart bodies do, or the request names one. -/
  oneContentType : r.hasBody = true →
    (H.filter (isNamed Request.contentTypeHeader)).length ≤ 1 ∧
      (H.filter (isNamed Request.contentTypeHeader) ≠ [] ↔
        (r.body.bind RequestBody.contentType?).isSome = true ∨
          r.headers.contains Request.contentTypeHeader = true)
  /-- The pairs of no managed name are the request's, in their order. -/
  others : H.filter unmanaged = r.headers.pairs.filter unmanaged

/-- **The headers sent with a request.** When a request's entity is prepared and framed, the
headers sent with it are the request's pairs less `Content-Length`, with `Accept: */*` when
it has no `Accept` header, and with the entity's content type in place of its own when the
entity sets one: with a body, the resolved type or the multipart type with its boundary, once,
exactly when the body or the request names a type. -/
theorem outgoing_headers_manage_length_accept_type (files : FileStore) (fresh : String)
    {H : List (String × String)} {data : Option (List UInt8)} (hv : r.headers.HasValues)
    (hprep : prepare r = (.ok e, r')) (hwire : Client.wireOf files fresh r e = .ok (H, data)) :
    SentHeaders fresh r H := by
  obtain ⟨ct?, rfl, hsets, hct⟩ := Client.wireOf_eq_ok hwire
  have htype := filter_sent_eq_sentContentTypes hv hprep hsets hct
  refine ⟨sent_not_contentLength r e ct?, filter_sent_accept r e ct?, htype, fun hbody => ?_,
    filter_sent_unmanaged r e ct?⟩
  rw [htype]
  exact sentContentTypes_present hv hprep hbody

/-- A form sent with a request that names a length and two values of another header. -/
theorem form_request_sent_headers :
    let f : FormBody := ⟨[("q", "1")], .utf8⟩
    let r : Request :=
      ⟨.post, "http://example.com/", ⟨[("content-length", ["3"]), ("X-Trace", ["a", "b"])]⟩,
        some (.form f)⟩
    let e : Option Entity := some (.bytes (Utf8.encode f.encode) (some f.contentType.render))
    let H := outgoingHeaders r e ++ [(Request.contentTypeHeader, f.contentType.render)]
    r.headers.HasValues ∧ prepare r = (.ok e, r) ∧
      Client.wireOf {} "" r e = .ok (H, some (Utf8.encode f.encode)) ∧ SentHeaders "" r H := by
  intro f r e H
  have hv : r.headers.HasValues := by
    simp +zetaDelta [HasValues]
  have hwire : Client.wireOf {} "" r e = .ok (H, some (Utf8.encode f.encode)) := by
    simp +zetaDelta only [Client.wireOf, toWire]
    rfl
  exact ⟨hv, rfl, hwire, outgoing_headers_manage_length_accept_type {} "" hv rfl hwire⟩

end Entity

end HttpCall
