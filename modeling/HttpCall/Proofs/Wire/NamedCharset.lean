import HttpCall.Charset.Decode
import HttpCall.Proofs.Wire.FormRead
import HttpCall.Proofs.Wire.Framing
import Mathlib

/-!
# The charset a body names

A form names its charset in its content type, and so does a multipart body, whose charset
covers the names and file names in the parts' heads and every text part whose head names
no charset of its own. What a body writes under such a name is the text in the charset's
output encoding (`NamesWhatItWrites`). That is the named charset itself, except for
UTF-16BE, UTF-16LE and replacement, which write UTF-8: for these three the content type
names one encoding and the bytes are in another.

So decoding what a body wrote with the charset it names gives each text back whenever the
charset writes itself and reads the text back; under the other three the bytes read back
with UTF-8, which reads back every text (`decode_named_charset`).
-/

namespace HttpCall

namespace Charset

/-- Decoding what a charset writes for a text gives the text back. -/
def ReadsBack (c : Charset) (t : String) : Prop := c.decode (c.encode t) = t

/-- A charset writes what its output encoding writes. -/
theorem encode_outputEncoding (c : Charset) (t : String) :
    c.outputEncoding.encode t = c.encode t := by
  cases c <;> rfl

/-- Only UTF-16BE, UTF-16LE and replacement write another encoding than their own, and
that encoding is UTF-8. -/
theorem outputEncoding_ne_self_iff (c : Charset) :
    c.outputEncoding ≠ c ↔ c.outputEncoding = utf8 ∧ (c = utf16be ∨ c = utf16le ∨ c = replacement) := by
  cases c <;> decide

/-- UTF-8 reads back every text. -/
theorem readsBack_utf8 (t : String) : utf8.ReadsBack t := by
  show Utf8.decode (Utf8.encodePoints (t.toList.map Char.toNat)) = t
  rw [Utf8.encodePoints_map_toNat, Utf8.decode_encode]

end Charset

namespace PreparedMultipart

/-- A name or file name with its quotes, carriage returns and line feeds written as `%22`,
`%0D` and `%0A`: the text a part's head writes for it. -/
def paramText (v : String) : String :=
  String.ofList (v.toList.flatMap fun c =>
    if c = '"' then "%22".toList
    else if c = '\r' then "%0D".toList
    else if c = '\n' then "%0A".toList
    else [c])

/-- A part's head writes a name in the body's charset, escapes made. -/
theorem headerParam_eq (m : PreparedMultipart) (v : String) :
    m.headerParam v = m.charset.encode (paramText v) := rfl

end PreparedMultipart

namespace Part

/-- The charset named for a part's text: the one its own `Content-Type` line names, when its
head carries a line that names one, or else the body's charset `cs`. -/
def namedCharset (p : Part) (cs : Charset) : Charset :=
  if p.writesType then (p.effectiveContentType cs).charset.getD cs else cs

/-- A text part is written in the charset named for it. -/
theorem payloadBytes_text {p : Part} {value : String} (h : p.payload = .text value)
    (files : FileStore) (cs : Charset) :
    p.payloadBytes files cs = some ((p.namedCharset cs).encode value) := by
  unfold payloadBytes namedCharset writesType
  rw [h]
  cases hct : p.contentType with
  | none => simp [effectiveContentType, hct, h, MediaType.withCharset]
  | some mt => simp

/-- The charset named for a part's text is the body's, or the one its own line names. -/
theorem namedCharset_named (p : Part) (cs : Charset) :
    p.namedCharset cs = cs ∨
      (p.writesType = true ∧ (p.effectiveContentType cs).charset = some (p.namedCharset cs)) := by
  unfold namedCharset
  split
  · next hw =>
    cases hx : (p.effectiveContentType cs).charset with
    | none => exact Or.inl rfl
    | some x => exact Or.inr ⟨hw, rfl⟩
  · exact Or.inl rfl

end Part

/-- What a body in the charset `c` names and writes for its texts. A form's entity names `c`
and its text reads back as the fields in `c`'s output encoding. A multipart body's content
type names `c`, and a part's head writes its name and file name in `c`'s output encoding,
escapes made. A text part is written in the output encoding of the charset named for it:
`c`, or the one its own `Content-Type` line names. -/
structure NamesWhatItWrites (c : Charset) : Prop where
  form : ∀ (r : Request) (items : List (String × String)), r.body = some (.form ⟨items, c⟩) →
    ∃ data, (Entity.prepare r).1 =
        .ok (some (.bytes data (some (MediaType.formUrlencoded.essence ++ "; charset=" ++ c.name)))) ∧
      FormBody.read data = items.map fun p => (c.outputEncoding.encode p.1, c.outputEncoding.encode p.2)
  multipart : ∀ (m : PreparedMultipart) (files : FileStore) (fresh : String) (w : Wire),
    m.charset = c → m.encode files fresh = .ok w →
    w.contentType = some ("multipart/form-data; boundary=" ++ m.boundary.getD fresh ++
      "; charset=" ++ c.name)
  param : ∀ (m : PreparedMultipart) (v : String), m.charset = c →
    m.headerParam v = c.outputEncoding.encode (PreparedMultipart.paramText v)
  textPart : ∀ (p : Part) (files : FileStore) (value : String), p.payload = .text value →
    p.payloadBytes files c = some ((p.namedCharset c).outputEncoding.encode value) ∧
      (p.namedCharset c = c ∨
        (p.writesType = true ∧ (p.effectiveContentType c).charset = some (p.namedCharset c)))

/-- Every body names its charset and writes in that charset's output encoding. -/
theorem namesWhatItWrites (c : Charset) : NamesWhatItWrites c where
  form r items hbody := by
    refine ⟨Utf8.encode (FormBody.encode ⟨items, c⟩), by simp [Entity.prepare, hbody]; rfl, ?_⟩
    rw [FormBody.read_encode]
    simp only [Charset.encode_outputEncoding]
  multipart m files fresh w hc hw := by
    rw [← hc]
    exact (PreparedMultipart.encode_eq_ok hw).2
  param m v hc := by
    rw [PreparedMultipart.headerParam_eq, hc, Charset.encode_outputEncoding]
  textPart p files value hp := by
    rw [Charset.encode_outputEncoding]
    exact ⟨Part.payloadBytes_text hp files c, Part.namedCharset_named p c⟩

/-- Fields written in a charset that reads them back decode to the fields. -/
theorem FormBody.decode_written {x : Charset} {items : List (String × String)}
    (hitems : ∀ p ∈ items, x.ReadsBack p.1 ∧ x.ReadsBack p.2) :
    (items.map fun p => (x.encode p.1, x.encode p.2)).map (fun p => (x.decode p.1, x.decode p.2)) =
      items := by
  rw [List.map_map]
  conv => rhs; rw [← List.map_id items]
  apply List.map_congr_left
  intro p hp
  obtain ⟨h1, h2⟩ := hitems p hp
  exact Prod.ext h1 h2

/-- **A body names the charset it writes, but for three charsets.** Every body in the
charset `c` names `c` (a text part the charset its own line names) and writes each text in
the output encoding of the charset named for it. That encoding is the named charset, save
for UTF-16BE, UTF-16LE and replacement, which write UTF-8. So a form's fields, read back and
decoded with the charset its content type names, are the fields whenever `c` writes itself
and reads them back; under the other three they are the fields decoded with UTF-8, which
reads back every text. -/
theorem decode_named_charset (c : Charset) :
    NamesWhatItWrites c ∧
      (c.outputEncoding ≠ c ↔
        c.outputEncoding = .utf8 ∧ (c = .utf16be ∨ c = .utf16le ∨ c = .replacement)) ∧
      (∀ (r : Request) (items : List (String × String)) (data : List UInt8) (ct : Option String),
        r.body = some (.form ⟨items, c⟩) → (Entity.prepare r).1 = .ok (some (.bytes data ct)) →
        (c.outputEncoding = c → (∀ p ∈ items, c.ReadsBack p.1 ∧ c.ReadsBack p.2) →
          (FormBody.read data).map (fun p => (c.decode p.1, c.decode p.2)) = items) ∧
        (c.outputEncoding ≠ c →
          (FormBody.read data).map (fun p => (Charset.utf8.decode p.1, Charset.utf8.decode p.2)) =
            items)) ∧
      ∀ (x : Charset) (t : String), x.outputEncoding ≠ x →
        Charset.utf8.decode (x.outputEncoding.encode t) = t := by
  have hnames := namesWhatItWrites c
  refine ⟨hnames, Charset.outputEncoding_ne_self_iff c, ?_, ?_⟩
  · intro r items data ct hbody hprep
    obtain ⟨data', hprep', hread⟩ := hnames.form r items hbody
    -- the entity prepared is the one whose text reads back
    have hdata : data = data' := by
      rw [hprep'] at hprep
      cases hprep
      rfl
    subst hdata
    constructor
    · intro hself hitems
      rw [hread, hself]
      exact FormBody.decode_written hitems
    · intro hother
      rw [hread, ((Charset.outputEncoding_ne_self_iff c).1 hother).1]
      exact FormBody.decode_written fun p _ => ⟨Charset.readsBack_utf8 _, Charset.readsBack_utf8 _⟩
  · intro x t hother
    rw [((Charset.outputEncoding_ne_self_iff x).1 hother).1]
    exact Charset.readsBack_utf8 t

/-- A UTF-8 form decodes back to its fields with the charset it names. -/
theorem utf8_form_decodes_to_fields :
    let f : FormBody := ⟨[("name", "José")], .utf8⟩
    let r : Request := ⟨.post, "http://example.com/", {}, some (.form f)⟩
    ∃ data, (Entity.prepare r).1 = .ok (some (.bytes data
        (some (MediaType.formUrlencoded.essence ++ "; charset=" ++ Charset.utf8.name)))) ∧
      (FormBody.read data).map (fun p => (Charset.utf8.decode p.1, Charset.utf8.decode p.2)) =
        f.items := by
  intro f r
  refine ⟨_, rfl, ?_⟩
  exact ((decode_named_charset .utf8).2.2.1 r f.items _ _ rfl rfl).1 rfl
    (fun _ _ => ⟨Charset.readsBack_utf8 _, Charset.readsBack_utf8 _⟩)

/-- A UTF-16BE form names UTF-16BE and writes its field in UTF-8: decoded with the charset it
names, the field is not the text. -/
theorem utf16be_form_names_other_encoding :
    let r : Request := ⟨.post, "http://example.com/", {}, some (.form ⟨[("k", "中")], .utf16be⟩)⟩
    ∃ data, (Entity.prepare r).1 = .ok (some (.bytes data
        (some (MediaType.formUrlencoded.essence ++ "; charset=" ++ Charset.utf16be.name)))) ∧
      (FormBody.read data).map (fun p => (Charset.utf16be.decode p.1, Charset.utf16be.decode p.2)) ≠
        [("k", "中")] := by
  intro r
  obtain ⟨data, hprep, hread⟩ := (namesWhatItWrites .utf16be).form r _ rfl
  refine ⟨data, hprep, ?_⟩
  rw [hread]
  decide

end HttpCall
