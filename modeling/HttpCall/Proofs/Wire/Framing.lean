import HttpCall.Proofs.Wire.FormData
import HttpCall.Proofs.Wire.Outgoing

/-!
# Multipart bodies read back

A multipart body is framed with its boundary, or a generated one, and sent with the type
`multipart/form-data; boundary=b; charset=c` that names the same boundary. A reader of
`multipart/form-data` (`FormData.read`) finds in the frame the body's parts in order: the
name and the file name each part's head writes, the rendered content type exactly when the
part has an explicit type or a payload that is no text, and the payload's bytes.

That holds when the reader cannot mistake anything for a delimiter or a quote. The
boundary is 1 to 70 letters, digits and `'()+_,-./:=?`, so it holds no carriage return;
names, file names and written types hold no carriage return, and names and file names no
quote; and no payload holds a delimiter once its line break in front is counted. That last
condition is more than "the payload holds no line break, `--` and the boundary": a payload
that begins with `--` and the boundary makes a delimiter line of its own, since it comes
right after the empty line that ends the head, and then the frame does not read back
(`dash_boundary_payload_unreadable`).

Each part is followed through three steps: preparing keeps what the reader will find
(`Part.PreparesTo`), the frame puts the part's `form-data` head and payload between two
delimiters (`frameParts_eq_ok`), and the reader takes that head and payload back
(`readPart_partBytes`) without meeting a delimiter inside them (`partBytes_no_delimiter`).

Main statement (`multipart_frame_reads_back`).
-/

namespace HttpCall

open FormData

/-- A character a boundary may hold: an ASCII letter or digit, or one of `'()+_,-./:=?`. -/
def isBoundaryChar (c : Char) : Bool :=
  c.isAlphanum || ['\'', '(', ')', '+', '_', ',', '-', '.', '/', ':', '=', '?'].contains c

/-- A boundary a caller may give: 1 to 70 boundary characters. -/
def IsBoundary (b : String) : Prop :=
  1 ≤ b.length ∧ b.length ≤ 70 ∧ ∀ c ∈ b.toList, isBoundaryChar c = true

instance : DecidablePred IsBoundary := fun b =>
  inferInstanceAs (Decidable (1 ≤ b.length ∧ b.length ≤ 70 ∧ ∀ c ∈ b.toList, isBoundaryChar c = true))

section Boundaries

theorem isBoundaryChar_ascii {c : Char} (h : isBoundaryChar c = true) : c.toNat < 128 := by
  unfold isBoundaryChar at h
  rcases Bool.or_eq_true_iff.1 h with h | h
  · -- `Char.isAlphanum` spelled out: three ranges of ASCII codes
    have hrange : ((decide (c.val ≥ 'A'.val ∧ c.val ≤ 'Z'.val) ||
        (c.val ≥ 'a'.val && c.val ≤ 'z'.val)) || (c.val ≥ '0'.val && c.val ≤ '9'.val)) = true :=
      h
    simp only [Bool.or_eq_true, Bool.and_eq_true, decide_eq_true_eq, ge_iff_le,
      UInt32.le_iff_toNat_le] at hrange
    have : c.toNat = c.val.toNat := rfl
    have : 'Z'.val.toNat = 90 := rfl
    have : 'z'.val.toNat = 122 := rfl
    have : '9'.val.toNat = 57 := rfl
    omega
  · simp only [List.contains_iff_mem, List.mem_cons, List.not_mem_nil, or_false] at h
    rcases h with rfl | rfl | rfl | rfl | rfl | rfl | rfl | rfl | rfl | rfl | rfl | rfl <;> decide

/-- A boundary character is written as one byte that is no carriage return. -/
theorem cr_not_mem_encodePoint {c : Char} (h : isBoundaryChar c = true) :
    13 ∉ Utf8.encodePoint c.toNat := by
  -- checked once for each of the 128 ASCII characters
  have key : ∀ n, n < 128 → isBoundaryChar (Char.ofNat n) = true →
      13 ∉ Utf8.encodePoint (Char.ofNat n).toNat := by decide +kernel
  have := key c.toNat (isBoundaryChar_ascii h)
  rw [Char.ofNat_toNat] at this
  exact this h

theorem IsBoundary.cr_not_mem {b : String} (hb : IsBoundary b) : 13 ∉ Utf8.encode b := by
  simp only [Utf8.encode, List.mem_flatMap, not_exists, not_and]
  intro c hc
  exact cr_not_mem_encodePoint (hb.2.2 c hc)

/-- A generated boundary, thirty ASCII letters and digits, is one a caller may give. -/
theorem isBoundary_of_isBoundaryShape {s : String} (h : isBoundaryShape s = true) :
    IsBoundary s := by
  simp only [isBoundaryShape, boundaryLength, Bool.and_eq_true, beq_iff_eq, String.all_bool_eq,
    List.all_eq_true] at h
  exact ⟨by omega, by omega, fun c hc => by simp [isBoundaryChar, h.2 c hc]⟩

end Boundaries

/-- Does the part's head carry a `Content-Type` line: it has an explicit type, or a payload
that is no text? -/
def Part.writesType (p : Part) : Bool :=
  p.contentType.isSome ||
    match p.payload with
    | .text _ => false
    | _ => true

/-- The bytes a part's payload is sent as, when it can be sent: a file's contents, what a
stream gives when it is read to its end, the bytes themselves, or a text written in the
charset of the part's type, or else in `cs`. -/
def Part.payloadBytes (files : FileStore) (cs : Charset) (p : Part) : Option (List UInt8) :=
  match p.payload with
  | .file path => (files.read path).toOption
  | .bytes data => some data
  | .text value => some (((p.effectiveContentType cs).charset.getD cs).encode value)
  | .stream (some source) =>
    match source.readToEnd.1 with
    | (data, none) => some data
    | (_, some _) => none
  | .stream none => none

/-- What a reader finds in the part of `p`, in a body prepared as `m`: the name and file name
as the head writes them, the rendered content type exactly when the head carries one, and
the payload's bytes. -/
structure Part.ReadsAs (files : FileStore) (m : PreparedMultipart) (p : Part)
    (rp : ReadPart) : Prop where
  name : rp.name = m.headerParam p.name
  fileName : rp.fileName = p.fileName.map m.headerParam
  contentType : rp.contentType =
    if p.writesType then some (Utf8.encode (p.effectiveContentType m.charset).render) else none
  body : p.payloadBytes files m.charset = some rp.body

/-- What keeps a reader from mistaking the part of `p`, framed with the boundary `b`: its
name and file name as the head writes them hold no quote and no carriage return, a type the
head carries holds no carriage return, and its payload, with the line break in front of it,
holds no delimiter. -/
structure Part.Readable (files : FileStore) (m : PreparedMultipart) (b : String) (p : Part) :
    Prop where
  name : 34 ∉ m.headerParam p.name ∧ 13 ∉ m.headerParam p.name
  fileName : ∀ fn ∈ p.fileName, 34 ∉ m.headerParam fn ∧ 13 ∉ m.headerParam fn
  contentType : p.writesType = true →
    13 ∉ Utf8.encode (p.effectiveContentType m.charset).render
  payload : ∀ data, p.payloadBytes files m.charset = some data →
    ¬ delimiter (Utf8.encode b) <:+: crlf ++ data

/-- What preparing a part in the charset `cs` keeps: its name and file name, its effective
type, whether its head carries a `Content-Type` line, and the bytes its payload is sent
as. -/
structure Part.PreparesTo (files : FileStore) (cs : Charset) (p : Part) (q : PreparedPart) :
    Prop where
  name : q.name = p.name
  fileName : q.fileName = p.fileName
  contentType : q.contentType = p.effectiveContentType cs
  writesType : (q.explicitType || q.payload.isBinary) = p.writesType
  body : ∀ m : PreparedMultipart, m.charset = cs →
    (m.partBody files q).toOption = p.payloadBytes files cs

namespace Entity

variable {files : FileStore} {cs : Charset}

theorem preparePart_preparesTo {p : Part} {q : PreparedPart}
    (h : (preparePart cs p).1 = .ok q) : p.PreparesTo files cs q := by
  unfold preparePart at h
  cases hp : p.payload with
  | file path =>
    simp only [hp, Except.ok.injEq] at h
    subst h
    refine ⟨rfl, rfl, rfl, by simp [Part.writesType, hp, PreparedPayload.isBinary], ?_⟩
    intro m _
    simp only [PreparedMultipart.partBody, Part.payloadBytes, hp]
    cases files.read path <;> rfl
  | bytes data =>
    simp only [hp, Except.ok.injEq] at h
    subst h
    exact ⟨rfl, rfl, rfl, by simp [Part.writesType, hp, PreparedPayload.isBinary],
      fun m _ => by simp [PreparedMultipart.partBody, Part.payloadBytes, Except.toOption, hp]⟩
  | text value =>
    simp only [hp, Except.ok.injEq] at h
    subst h
    exact ⟨rfl, rfl, rfl, by simp [Part.writesType, hp, PreparedPayload.isBinary],
      fun m hm => by
        simp [PreparedMultipart.partBody, Part.payloadBytes, Except.toOption, hp, hm]⟩
  | stream source =>
    cases source with
    | none => simp [hp] at h
    | some source =>
      simp only [hp] at h
      -- a stream is read to its end and sent as the bytes it gave
      cases hr : source.readToEnd.1 with
      | mk data err =>
        cases err with
        | some e => simp [hr] at h
        | none =>
          simp only [hr, Except.ok.injEq] at h
          subst h
          exact ⟨rfl, rfl, rfl, by simp [Part.writesType, hp, PreparedPayload.isBinary],
            fun m _ => by
              simp [PreparedMultipart.partBody, Part.payloadBytes, Except.toOption, hp, hr]⟩

/-- Parts prepared without a failure are each prepared from the part in their place. -/
theorem prepareParts_eq_ok :
    ∀ {ps : List Part} {qs : List PreparedPart} {parts : List Part},
      prepareParts cs ps = (.ok qs, parts) → List.Forall₂ (Part.PreparesTo files cs) ps qs
  | [], qs, parts, h => by
    simp only [prepareParts, Prod.mk.injEq, Except.ok.injEq] at h
    rw [← h.1]
    exact .nil
  | p :: ps, qs, parts, h => by
    unfold prepareParts at h
    cases hp : preparePart cs p with
    | mk result p' =>
      cases result with
      | error e => simp [hp] at h
      | ok q =>
        cases hr : prepareParts cs ps with
        | mk rest ps' =>
          cases rest with
          | error e => simp [hp, hr] at h
          | ok qs' =>
            simp only [hp, hr, Prod.mk.injEq, Except.ok.injEq] at h
            rw [← h.1]
            exact .cons (preparePart_preparesTo (by rw [hp])) (prepareParts_eq_ok hr)

end Entity

namespace PreparedMultipart

/-- The parameters of a part's `Content-Disposition` line: its name, then its file name when
it has one. -/
def dispositionParams (m : PreparedMultipart) (p : PreparedPart) :
    List (List UInt8 × List UInt8) :=
  (Utf8.encode "name", m.headerParam p.name) ::
    (p.fileName.map fun fn => (Utf8.encode "filename", m.headerParam fn)).toList

/-- The value of a part's `Content-Type` line, when its head carries one. -/
def typeValue? (p : PreparedPart) : Option (List UInt8) :=
  if p.explicitType || p.payload.isBinary then some (Utf8.encode p.contentType.render) else none

/-- A part as a reader finds it between two delimiters: its head lines, an empty line and
its payload. -/
def partBytes (m : PreparedMultipart) (p : PreparedPart) (body : List UInt8) : List UInt8 :=
  ((formHead (m.dispositionParams p) (typeValue? p)).flatMap fun l => l ++ crlf) ++ crlf ++ body

/-- A part's head is the dash boundary, a line break, and the `form-data` head a reader
takes the part's own. -/
theorem partHead_append (m : PreparedMultipart) (b : String) (p : PreparedPart)
    (body : List UInt8) :
    m.partHead b p ++ body = dashes ++ Utf8.encode b ++ crlf ++ m.partBytes p body := by
  have hdisp : ascii "\r\nContent-Disposition: form-data; name=\"" =
      crlf ++ (Utf8.encode "Content-Disposition" ++ [58, 32] ++ Utf8.encode "form-data" ++
        ([59, 32] ++ Utf8.encode "name" ++ [61, 34])) := by decide
  have hfile : ascii "; filename=\"" = [59, 32] ++ Utf8.encode "filename" ++ [61, 34] := by
    decide
  have htype : ascii "Content-Type: " = Utf8.encode "Content-Type" ++ [58, 32] := by decide
  have hquote : ascii "\"" = [34] := by decide
  have hcrlf : ascii "\r\n" = crlf := by decide
  have hdash : ascii "--" = dashes := by decide
  unfold partHead partBytes formHead dispositionParams typeValue? paramBytes
  rw [hdisp, hfile, htype, hquote, hcrlf, hdash]
  cases p.fileName <;> split_ifs <;> simp

/-- Framed parts are the frame of their parts' bytes, each with the payload its part gives,
closed by a line break. -/
theorem frameParts_eq_ok {m : PreparedMultipart} {files : FileStore} {b : String} :
    ∀ {qs : List PreparedPart} {data : List UInt8}, m.frameParts files b qs = .ok data →
      ∃ pbs, List.Forall₂ (fun q pb => ∃ body, m.partBody files q = .ok body ∧
          pb = m.partBytes q body) qs pbs ∧
        data = frame (Utf8.encode b) pbs crlf
  | [], data, h => by
    have hdash : ascii "--" = dashes := by decide
    have hclose : ascii "--\r\n" = dashes ++ crlf := by decide
    simp only [frameParts, hdash, hclose, Except.ok.injEq] at h
    refine ⟨[], .nil, ?_⟩
    rw [← h]
    simp [frame]
  | q :: qs, data, h => by
    simp only [frameParts] at h
    cases hbody : m.partBody files q with
    | error e => simp [hbody] at h; cases h
    | ok body =>
      cases htail : m.frameParts files b qs with
      | error e => simp [hbody, htail] at h; cases h
      | ok tail =>
        obtain ⟨pbs, hpbs, rfl⟩ := frameParts_eq_ok htail
        have hcrlf : ascii "\r\n" = crlf := by decide
        simp only [hbody, htail, bind, Except.bind, pure, Except.pure, Except.ok.injEq] at h
        refine ⟨m.partBytes q body :: pbs, .cons ⟨body, hbody, rfl⟩ hpbs, ?_⟩
        rw [← h, partHead_append, hcrlf, frame_cons]

theorem lookup?_dispositionParams_name (m : PreparedMultipart) (q : PreparedPart) :
    lookup? (m.dispositionParams q) "name" = some (m.headerParam q.name) :=
  lookup?_cons_of_sameName (by decide)

theorem lookup?_dispositionParams_filename (m : PreparedMultipart) (q : PreparedPart) :
    lookup? (m.dispositionParams q) "filename" = q.fileName.map m.headerParam := by
  rw [dispositionParams, lookup?_cons_of_not_sameName (by decide)]
  cases q.fileName with
  | none => rfl
  | some fn => exact lookup?_cons_of_sameName (by decide)

section Parts

variable {files : FileStore} {m : PreparedMultipart} {p : Part} {q : PreparedPart}
  {body : List UInt8} {b : String}

theorem typeValue?_eq (hq : p.PreparesTo files m.charset q) :
    typeValue? q = if p.writesType then
      some (Utf8.encode (p.effectiveContentType m.charset).render) else none := by
  rw [typeValue?, hq.writesType, hq.contentType]

theorem payloadBytes_eq (hq : p.PreparesTo files m.charset q)
    (hbody : m.partBody files q = .ok body) : p.payloadBytes files m.charset = some body := by
  rw [← hq.body m rfl, hbody]
  rfl

/-- The parameters of a readable part's disposition line cannot be mistaken: no key runs
into `="`, no value holds a quote, and none holds a carriage return. -/
theorem dispositionParams_safe (hq : p.PreparesTo files m.charset q)
    (hr : p.Readable files m b) :
    ∀ kv ∈ m.dispositionParams q,
      (¬ [61, 34] <:+: kv.1 ++ [61] ∧ 34 ∉ kv.2) ∧ 13 ∉ kv.1 ∧ 13 ∉ kv.2 := by
  have hname : ¬ [61, 34] <:+: Utf8.encode "name" ++ [61] ∧ 13 ∉ Utf8.encode "name" := by
    decide
  have hfile : ¬ [61, 34] <:+: Utf8.encode "filename" ++ [61] ∧ 13 ∉ Utf8.encode "filename" := by
    decide
  intro kv hkv
  simp only [dispositionParams, List.mem_cons, Option.mem_toList, Option.map_eq_some_iff] at hkv
  rcases hkv with rfl | ⟨fn, hfn, rfl⟩
  · rw [hq.name]
    exact ⟨⟨hname.1, hr.name.1⟩, hname.2, hr.name.2⟩
  · rw [hq.fileName] at hfn
    exact ⟨⟨hfile.1, (hr.fileName fn hfn).1⟩, hfile.2, (hr.fileName fn hfn).2⟩

theorem typeValue?_safe (hq : p.PreparesTo files m.charset q) (hr : p.Readable files m b) :
    ∀ v ∈ typeValue? q, 13 ∉ v := by
  intro v hv
  rw [typeValue?_eq hq] at hv
  split at hv
  · cases hv
    exact hr.contentType (by assumption)
  · cases hv

/-- A readable part reads back as its name, file name, type and payload. -/
theorem readPart_partBytes (hq : p.PreparesTo files m.charset q)
    (hbody : m.partBody files q = .ok body) (hr : p.Readable files m b) :
    ∃ rp, readPart (m.partBytes q body) = some rp ∧ p.ReadsAs files m rp := by
  have hread : readPart (m.partBytes q body) =
      (lookup? (m.dispositionParams q) "name").map fun name =>
        ⟨name, lookup? (m.dispositionParams q) "filename", typeValue? q, body⟩ :=
    readPart_formHead (dispositionParams_safe hq hr) (typeValue?_safe hq hr)
  rw [lookup?_dispositionParams_name, lookup?_dispositionParams_filename, Option.map_some] at hread
  exact ⟨_, hread, by rw [hq.name], by rw [hq.fileName], typeValue?_eq hq,
    payloadBytes_eq hq hbody⟩

/-- A readable part holds no delimiter of a boundary without a carriage return. -/
theorem partBytes_no_delimiter (hb : 13 ∉ Utf8.encode b)
    (hq : p.PreparesTo files m.charset q) (hbody : m.partBody files q = .ok body)
    (hr : p.Readable files m b) :
    ¬ delimiter (Utf8.encode b) <:+:
      m.partBytes q body ++ (delimiter (Utf8.encode b)).dropLast := by
  have hlines := formHead_lines (fun kv hkv => (dispositionParams_safe hq hr kv hkv).2)
    (typeValue?_safe hq hr)
  refine not_delimiter_lines hb (hr.payload body (payloadBytes_eq hq hbody)) _ fun l hl => ?_
  -- every head line begins with the `C` of its name, so none can end a delimiter's dashes
  refine ⟨(hlines l hl).1, fun y hy => ?_⟩
  rw [(hlines l hl).2] at hy
  cases hy
  decide

/-- Readable parts, prepared and framed, hold no delimiter and read back in order. The
induction runs along the parts, their prepared forms and their bytes together. -/
theorem frame_reads_back (hb : 13 ∉ Utf8.encode b) :
    ∀ {ps : List Part} {qs : List PreparedPart} {pbs : List (List UInt8)},
      List.Forall₂ (Part.PreparesTo files m.charset) ps qs →
      List.Forall₂ (fun q pb => ∃ body, m.partBody files q = .ok body ∧
        pb = m.partBytes q body) qs pbs →
      (∀ p ∈ ps, p.Readable files m b) →
      (∀ pb ∈ pbs, ¬ delimiter (Utf8.encode b) <:+: pb ++ (delimiter (Utf8.encode b)).dropLast) ∧
        ∃ rps, pbs.mapM readPart = some rps ∧ List.Forall₂ (Part.ReadsAs files m) ps rps := by
  intro ps qs pbs hpq hqb hr
  induction hpq generalizing pbs with
  | nil =>
    cases hqb
    exact ⟨by simp, [], rfl, .nil⟩
  | cons hq _ ih =>
    cases hqb with
    | cons hpb hrest =>
      obtain ⟨body, hbody, rfl⟩ := hpb
      obtain ⟨hno, rps, hmap, hall⟩ := ih hrest fun p hp => hr p (List.mem_cons_of_mem _ hp)
      have hr1 := hr _ List.mem_cons_self
      obtain ⟨rp, hrp, hreads⟩ := readPart_partBytes hq hbody hr1
      refine ⟨List.forall_mem_cons.2 ⟨partBytes_no_delimiter hb hq hbody hr1, hno⟩, rp :: rps, ?_,
        .cons hreads hall⟩
      simp [hrp, hmap]

end Parts

end PreparedMultipart

/-- **A multipart body reads back.** A multipart body prepared and framed with a boundary a
caller may give (or a generated one) goes with the type that names that boundary, and when
its parts are readable, a reader of `multipart/form-data` finds in the frame each part in
order: its name and file name as the head writes them, its type exactly when the head
carries one, and its payload's bytes. -/
theorem multipart_frame_reads_back {r r' : Request} {m : MultipartBody} {pm : PreparedMultipart}
    {files : FileStore} {fresh : String} {w : Wire}
    (hbody : r.body = some (.multipart m))
    (hprep : Entity.prepare r = (.ok (some (.multipart pm)), r'))
    (hwire : (Entity.multipart pm).toWire files fresh = .ok w)
    (hb : IsBoundary (m.boundary.getD fresh))
    (hparts : ∀ p ∈ m.parts, p.Readable files pm (m.boundary.getD fresh)) :
    w.contentType = some ("multipart/form-data; boundary=" ++ m.boundary.getD fresh ++
      "; charset=" ++ m.charset.name) ∧
    ∃ rps, FormData.read (Utf8.encode (m.boundary.getD fresh)) w.data = some rps ∧
      List.Forall₂ (Part.ReadsAs files pm) m.parts rps := by
  obtain ⟨ps, parts, hps, hpm⟩ := Entity.prepare_multipart hbody hprep
  cases hpm
  obtain ⟨hdata, hct⟩ := PreparedMultipart.encode_eq_ok hwire
  obtain ⟨pbs, hpbs, hdata⟩ := PreparedMultipart.frameParts_eq_ok hdata
  obtain ⟨hno, rps, hmap, hall⟩ := PreparedMultipart.frame_reads_back hb.cr_not_mem
    (Entity.prepareParts_eq_ok hps) hpbs hparts
  refine ⟨hct, rps, ?_, hall⟩
  rw [hdata]
  unfold FormData.read
  rw [parts_frame pbs hno]
  exact hmap

/-- A body with a text, bytes, a file and a stream: each part is read back in its place,
the stream as the bytes it gave when the body was prepared. -/
theorem mixed_parts_frame_reads_back :
    let files : FileStore := ⟨[("notes.txt", [104, 105])]⟩
    let m : MultipartBody := ⟨some "XyZ", .utf8, [Part.text "greeting" "hello",
      Part.bytes "raw" [1, 2, 3], ⟨"doc", some "notes.txt", some MediaType.textPlain, .file "notes.txt"⟩,
      Part.stream "feed" (ByteSource.ofBytes [7, 8])]⟩
    let r : Request := ⟨.post, "http://example.com/", {}, some (.multipart m)⟩
    let pm : PreparedMultipart := ⟨some "XyZ", .utf8, [
      ⟨"greeting", none, MediaType.textPlain.withCharset .utf8, false, .text "hello"⟩,
      ⟨"raw", none, MediaType.octetStream, false, .bytes [1, 2, 3]⟩,
      ⟨"doc", some "notes.txt", MediaType.textPlain, true, .file "notes.txt"⟩,
      ⟨"feed", none, MediaType.octetStream, false, .bytes [7, 8]⟩]⟩
    ∃ r' w, Entity.prepare r = (.ok (some (.multipart pm)), r') ∧
      (Entity.multipart pm).toWire files "" = .ok w ∧ IsBoundary "XyZ" ∧
      (∀ p ∈ m.parts, p.Readable files pm "XyZ") ∧
      (w.contentType = some ("multipart/form-data; boundary=" ++ m.boundary.getD "" ++
        "; charset=" ++ m.charset.name) ∧
      ∃ rps, FormData.read (Utf8.encode (m.boundary.getD "")) w.data = some rps ∧
        List.Forall₂ (Part.ReadsAs files pm) m.parts rps) := by
  intro files m r pm
  obtain ⟨r', hprep⟩ : ∃ r', Entity.prepare r = (.ok (some (.multipart pm)), r') :=
    ⟨_, Prod.ext (by decide +kernel) rfl⟩
  have hb : IsBoundary "XyZ" := by
    simp only [IsBoundary, ← String.length_toList, String.reduceToList]
    refine ⟨by decide, by decide, ?_⟩
    simp [isBoundaryChar]
  have hparts : ∀ p ∈ m.parts, p.Readable files pm "XyZ" := by
    intro p hp
    simp only [m, List.mem_cons, List.not_mem_nil, or_false] at hp
    -- each part's name, file name and type are short ASCII, and no payload holds `--XyZ`
    rcases hp with rfl | rfl | rfl | rfl
    · refine ⟨by decide, fun fn hfn => (by cases hfn), fun h => (by cases h), fun data hdata => ?_⟩
      cases hdata
      decide
    · refine ⟨by decide, fun fn hfn => (by cases hfn), fun _ => (by decide), fun data hdata => ?_⟩
      cases hdata
      decide
    · refine ⟨by decide, fun fn hfn => ?_, fun _ => (by decide), fun data hdata => ?_⟩
      · cases hfn
        decide
      · cases hdata
        decide
    · refine ⟨by decide, fun fn hfn => (by cases hfn), fun _ => (by decide), fun data hdata => ?_⟩
      cases hdata
      decide
  exact ⟨r', _, hprep, rfl, hb, hparts, multipart_frame_reads_back rfl hprep rfl hb hparts⟩

/-- A payload that begins with `--` and the boundary holds no delimiter of its own, yet
after the empty line that ends its head it makes a delimiter line, and the frame does not
read back. -/
theorem dash_boundary_payload_unreadable :
    let m : MultipartBody := ⟨some "B", .utf8, [Part.text "x" "--B"]⟩
    let r : Request := ⟨.post, "http://example.com/", {}, some (.multipart m)⟩
    ∃ pm w, Entity.prepare r = (.ok (some (.multipart pm)), r) ∧
      (Entity.multipart pm).toWire {} "" = .ok w ∧
      ¬ delimiter (Utf8.encode "B") <:+: Utf8.encode "--B" ∧
      FormData.read (Utf8.encode "B") w.data = none :=
  ⟨_, _, rfl, rfl, by decide, by decide +kernel⟩

end HttpCall
