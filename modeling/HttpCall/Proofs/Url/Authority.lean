import HttpCall.Url.Parse
import HttpCall.Proofs.Wire.FormRead
import HttpCall.Proofs.MediaType.Reparse
import Mathlib

/-!
# The authority of a URL

What the URL parser makes of an authority `host:port` with no userinfo, and what setting a
username and a password writes.

The userinfo percent-encode set leaves `%` and the hexadecimal digits alone, so an encoded
text decodes exactly as the text itself does (`Percent.decode_encode_userinfo`): an escape
already in the text is decoded, and only a text without `%` decodes to its own bytes
(`Percent.decode_of_no_percent`).

The authority scan reads a host of either bracket shape (`Url.HostShape`) whole up to the
colon after it (`Url.splitHost_of_hostShape`), and the decimal digits of a port read back as
the port (`Url.readPort_toDigits`). From these, a special scheme reads `//host:port` as the
host its host parser makes, with the port dropped when it is the default
(`Url.parseSpecial_address`); a scheme that is not special reads `host:port` the same way with
the opaque-host parser, and refuses an empty host (`Url.parseOtherAuthority_address`). A host
that reads is never the empty name, so such a URL can carry credentials.
-/

namespace HttpCall.Percent

/-! ## Percent-encoding, byte by byte -/

/-- The bytes a URL writes for one byte of a component: the byte itself, or `%` and its two
hexadecimal digits. -/
def escapedBytes (set : EncodeSet) (b : UInt8) : List UInt8 :=
  if set.contains b.toNat then
    [37, (hexDigit (b.toNat / 16)).toNat.toUInt8, (hexDigit (b.toNat % 16)).toNat.toUInt8]
  else [b]

/-- Every set encodes the controls and the bytes above ASCII, so the bytes it keeps are ASCII. -/
theorem lt_of_contains_eq_false {set : EncodeSet} {b : Nat} (h : set.contains b = false) :
    b < 0x7F := by
  have hctl : EncodeSet.isControl b = false := by
    cases set <;> simp_all [EncodeSet.contains, EncodeSet.inFragment, EncodeSet.inQuery,
      EncodeSet.inPath]
  simp only [EncodeSet.isControl, Bool.or_eq_false_iff, decide_eq_false_iff_not] at hctl
  omega

/-- The characters written for one byte, as text. -/
theorem escapeChars_bytes (set : EncodeSet) (b : UInt8) :
    (∀ c ∈ (if set.contains b.toNat then escape b.toNat else [Char.ofNat b.toNat]),
        c.toNat < 0x80) ∧
      (if set.contains b.toNat then escape b.toNat else [Char.ofNat b.toNat]).map
        (·.toNat.toUInt8) = escapedBytes set b := by
  have hlt : b.toNat < 256 := b.toNat_lt
  unfold escapedBytes
  split
  · have hdig (n : Nat) (hn : n < 16) : (hexDigit n).toNat < 0x80 := by
      rw [FormBody.hexDigit_toNat hn]; split <;> omega
    refine ⟨?_, rfl⟩
    simp only [escape, List.mem_cons, List.not_mem_nil, or_false]
    rintro c (rfl | rfl | rfl)
    · decide
    · exact hdig _ (by omega)
    · exact hdig _ (by omega)
  · next h =>
    have hb := lt_of_contains_eq_false (Bool.eq_false_iff.2 h)
    have hc : (Char.ofNat b.toNat).toNat = b.toNat := by
      rw [Char.toNat_ofNat, if_pos (by simp only [Nat.isValidChar]; omega)]
    refine ⟨?_, ?_⟩
    · simp only [List.mem_singleton]
      rintro c rfl
      omega
    · simp [hc]

/-- The UTF-8 bytes of an encoded text: each byte of the text, kept or escaped. -/
theorem utf8_encode (set : EncodeSet) (s : String) :
    Utf8.encode (encode set s) = (Utf8.encode s).flatMap (escapedBytes set) := by
  rw [encode, encodeBytes, Utf8.encode_ofList_ascii, List.map_flatMap]
  · exact List.flatMap_congr fun b _ => (escapeChars_bytes set b).2
  · intro c hc
    obtain ⟨b, -, hb⟩ := List.mem_flatMap.1 hc
    exact (escapeChars_bytes set b).1 c hb

/-- Encoding leaves a text empty exactly when it was empty. -/
theorem encode_eq_empty {set : EncodeSet} {s : String} : encode set s = "" ↔ s = "" := by
  constructor
  · intro h
    have hbytes : (Utf8.encode s).flatMap (escapedBytes set) = [] := by
      rw [← utf8_encode, h]
      rfl
    have hnil : Utf8.encode s = [] := by
      rw [List.flatMap_eq_nil_iff] at hbytes
      refine List.eq_nil_iff_forall_not_mem.2 fun b hb => ?_
      have hb := hbytes b hb
      unfold escapedBytes at hb
      split at hb <;> cases hb
    rw [← Utf8.decode_encode s, hnil]
    rfl
  · rintro rfl
    rfl

/-! ## Decoding what the userinfo set writes -/

/-- The escape a list of bytes starts with, if any: two hexadecimal digits, read as one byte,
and the bytes after them. -/
def escapeAhead : List UInt8 → Option (UInt8 × List UInt8)
  | h :: l :: more =>
    match hexValue? h.toNat, hexValue? l.toNat with
    | some hi, some lo => some ((hi * 16 + lo).toUInt8, more)
    | _, _ => none
  | _ => none

/-- A `%` is decoded with the escape after it, or kept when none follows. -/
theorem decodeBytes_percent (xs : List UInt8) :
    decodeBytes (37 :: xs) =
      match escapeAhead xs with
      | some (v, more) => v :: decodeBytes more
      | none => 37 :: decodeBytes xs := by
  match xs with
  | [] => simp [decodeBytes, escapeAhead]
  | [_] => simp [decodeBytes, escapeAhead]
  | h :: l :: more =>
    rw [decodeBytes, if_pos (by decide), escapeAhead]
    cases hexValue? h.toNat <;> cases hexValue? l.toNat <;> rfl

theorem length_of_escapeAhead {xs more : List UInt8} {v : UInt8}
    (h : escapeAhead xs = some (v, more)) : more.length + 2 = xs.length := by
  match xs, h with
  | _ :: _ :: more', h =>
    simp only [escapeAhead] at h
    split at h
    · cases h; simp
    · cases h

/-- The userinfo set leaves `%` and the hexadecimal digits as they are. -/
theorem userinfo_keeps_hex {b : Nat} (h : EncodeSet.userinfo.contains b = true) :
    b ≠ 37 ∧ hexValue? b = none := by
  simp only [EncodeSet.contains, EncodeSet.inPath, EncodeSet.inFragment, EncodeSet.isControl,
    Bool.or_eq_true, decide_eq_true_eq, List.contains_eq_mem, List.mem_cons, List.not_mem_nil,
    or_false, decide_eq_true_eq] at h
  refine ⟨by omega, ?_⟩
  unfold hexValue?
  split
  · omega
  split
  · omega
  split
  · omega
  · rfl

/-- An escaped byte starts with `%`, which is no hexadecimal digit. -/
theorem escapeAhead_escaped {b : UInt8} (hb : EncodeSet.userinfo.contains b.toNat = true)
    (rest : List UInt8) :
    escapeAhead (escapedBytes .userinfo b ++ rest) = none := by
  rw [escapedBytes, if_pos hb]
  rfl

/-- What the userinfo set writes starts with an escape exactly when the bytes do. -/
theorem escapeAhead_userinfo (xs : List UInt8) :
    escapeAhead (xs.flatMap (escapedBytes .userinfo)) =
      (escapeAhead xs).map fun e => (e.1, e.2.flatMap (escapedBytes .userinfo)) := by
  match xs with
  | [] => rfl
  | [c] =>
    by_cases hc : EncodeSet.userinfo.contains c.toNat = true
    · have hnone := escapeAhead_escaped hc []
      rw [List.append_nil] at hnone
      rw [List.flatMap_cons, List.flatMap_nil, List.append_nil, hnone]
      rfl
    · rw [List.flatMap_cons, escapedBytes, if_neg hc]
      rfl
  | c :: d :: more =>
    by_cases hc : EncodeSet.userinfo.contains c.toNat = true
    · -- an escaped first byte is no digit, and its escape starts with `%`
      rw [List.flatMap_cons, escapeAhead_escaped hc, escapeAhead, (userinfo_keeps_hex hc).2]
      rfl
    rw [List.flatMap_cons, escapedBytes, if_neg hc, List.flatMap_cons, List.singleton_append]
    by_cases hd : EncodeSet.userinfo.contains d.toNat = true
    · rw [escapedBytes, if_pos hd]
      simp only [List.cons_append, List.nil_append, escapeAhead, (userinfo_keeps_hex hd).2]
      cases hexValue? c.toNat <;> rfl
    · rw [escapedBytes, if_neg hd, List.singleton_append, escapeAhead, escapeAhead]
      cases hexValue? c.toNat <;> cases hexValue? d.toNat <;> rfl

/-- An escaped byte decodes to itself. -/
theorem decodeBytes_escaped {b : UInt8} (hb : EncodeSet.userinfo.contains b.toNat = true)
    (rest : List UInt8) :
    decodeBytes (escapedBytes .userinfo b ++ rest) = b :: decodeBytes rest := by
  have hlt : b.toNat < 256 := b.toNat_lt
  have hsmall (n : Nat) (hn : n < 16) : (hexDigit n).toNat.toUInt8.toNat = (hexDigit n).toNat := by
    simp only [Nat.toUInt8_eq, UInt8.toNat_ofNat', FormBody.hexDigit_toNat hn]
    split <;> omega
  rw [escapedBytes, if_pos hb, List.cons_append, List.cons_append, List.cons_append,
    List.nil_append, decodeBytes, if_pos (by decide), hsmall _ (by omega), hsmall _ (by omega),
    FormBody.hexValue?_hexDigit (by omega), FormBody.hexValue?_hexDigit (by omega)]
  dsimp only
  congr 1
  rw [show b.toNat / 16 * 16 + b.toNat % 16 = b.toNat by omega]
  exact UInt8.ofNat_toNat

/-- **Decoding undoes the userinfo set.** The set keeps `%` and the hexadecimal digits, so what
it writes decodes exactly as the unwritten bytes would: an escape the bytes held is decoded
too. -/
theorem decodeBytes_flatMap_userinfo (bs : List UInt8) :
    decodeBytes (bs.flatMap (escapedBytes .userinfo)) = decodeBytes bs := by
  -- strong induction on the length: after a `%`, an escape is read two bytes at a time
  induction hn : bs.length using Nat.strong_induction_on generalizing bs with
  | _ n ih =>
  match bs with
  | [] => rfl
  | b :: rest =>
    have ihr := ih rest.length (by simp [← hn]) rest rfl
    by_cases hb : EncodeSet.userinfo.contains b.toNat = true
    · rw [List.flatMap_cons, decodeBytes_escaped hb, ihr,
        FormBody.decodeBytes_cons_of_ne (userinfo_keeps_hex hb).1]
    rw [List.flatMap_cons, escapedBytes, if_neg hb, List.singleton_append]
    by_cases hpct : b.toNat = 37
    · -- a kept `%`: both sides read the same escape after it, or none
      have hb37 : b = 37 := UInt8.toNat_inj.1 hpct
      subst hb37
      rw [decodeBytes_percent, decodeBytes_percent, escapeAhead_userinfo]
      cases he : escapeAhead rest with
      | none => simp [ihr]
      | some e =>
        obtain ⟨v, more⟩ := e
        have hlen := length_of_escapeAhead he
        simp [ih more.length (by simp at hn; omega) more rfl]
    · rw [FormBody.decodeBytes_cons_of_ne hpct, FormBody.decodeBytes_cons_of_ne hpct, ihr]

/-- A text encoded with the userinfo set decodes as the text itself does. -/
theorem decode_encode_userinfo (s : String) : decode (encode .userinfo s) = decode s := by
  rw [decode, decode, utf8_encode, decodeBytes_flatMap_userinfo]

/-- Bytes without `%` decode to themselves. -/
theorem decodeBytes_of_not_mem {bs : List UInt8} (h : (37 : UInt8) ∉ bs) : decodeBytes bs = bs := by
  induction bs with
  | nil => simp [decodeBytes]
  | cons b rest ih =>
    have hb : b.toNat ≠ 37 := by
      intro hb
      rw [show b = 37 from UInt8.toNat_inj.1 hb] at h
      exact h List.mem_cons_self
    rw [FormBody.decodeBytes_cons_of_ne hb, ih fun hm => h (List.mem_cons_of_mem _ hm)]

/-- A text without `%` decodes to its own UTF-8 bytes. -/
theorem decode_of_no_percent {s : String} (h : '%' ∉ s.toList) : decode s = Utf8.encode s := by
  apply decodeBytes_of_not_mem
  intro hm
  obtain ⟨c, hc, hcb⟩ := Utf8.mem_of_mem_encode hm (by decide)
  have : c = '%' := Char.toNat_inj.1 hcb
  exact h (this ▸ hc)

end HttpCall.Percent

namespace HttpCall.Host

/-! ## Hosts that read are not empty -/

/-- A bracketed host that reads is an IPv6 address. -/
theorem bracketed?_ok {s : String} {r : Except UrlError Host} {h : Host}
    (hb : bracketed? s = some r) (hr : r = .ok h) : ∃ groups, h = .ipv6 groups := by
  unfold bracketed? at hb
  split at hb
  · split at hb
    · next inner _ =>
      cases hb
      cases hg : parseIpv6 inner.reverse with
      | error e => simp [hg, Except.map] at hr
      | ok groups =>
        simp only [hg, Except.map, Except.ok.injEq] at hr
        exact ⟨groups, hr.symm⟩
    · cases hb
      cases hr
  · cases hb

/-- A special host never reads as the empty name. -/
theorem parseSpecial_ne_empty {s : String} {h : Host} (hp : parseSpecial s = .ok h) :
    h ≠ .domain "" := by
  unfold parseSpecial at hp
  split at hp
  · next r hb =>
    obtain ⟨groups, rfl⟩ := bracketed?_ok hb hp
    simp
  · dsimp only at hp
    generalize Idna.toAscii (Utf8.decodePoints (Percent.decode s)) = ascii at hp
    cases ascii with
    | none => cases hp
    | some ascii =>
      dsimp only at hp
      split at hp
      · cases hp
      · next hne =>
        split at hp
        · cases hv : parseIpv4 (Utf8.ofPoints ascii) <;> simp [hv, Except.map] at hp
          simp [← hp]
        · cases hp
          simpa using hne

/-- The empty opaque host is the empty name. -/
theorem parseNonSpecial_empty : parseNonSpecial "" = .ok (.domain "") := by
  decide

/-- Only the empty text reads as the empty opaque host. -/
theorem parseNonSpecial_ne_empty {s : String} {h : Host} (hs : s ≠ "")
    (hp : parseNonSpecial s = .ok h) : h ≠ .domain "" := by
  unfold parseNonSpecial at hp
  split at hp
  · next r hb =>
    obtain ⟨groups, rfl⟩ := bracketed?_ok hb hp
    simp
  · split at hp
    · cases hp
    · cases hp
      simpa [Percent.encode_eq_empty] using hs

end HttpCall.Host

namespace HttpCall.Url

/-! ## The host scan -/

/-- The host scan reads through characters that are no bracket, do not end the authority, and
are no colon outside brackets, keeping its bracket state. -/
theorem splitHost_append_chunk {special inside : Bool} {a : List Char}
    (ha : ∀ c ∈ a, c ≠ '[' ∧ c ≠ ']' ∧ endsAuthority special c = false ∧
      (inside = false → c ≠ ':'))
    (rest : List Char) :
    splitHost special inside (a ++ rest) =
      (a ++ (splitHost special inside rest).1, (splitHost special inside rest).2) := by
  induction a with
  | nil => rfl
  | cons c a ih =>
    obtain ⟨hopen, hclose, hend, hcolon⟩ := ha c List.mem_cons_self
    have hstop : ((c == ':' && !inside) || endsAuthority special c) = false := by
      cases inside
      · simp [hcolon rfl, hend]
      · simp [hend]
    have hstate : (if (c == '[') = true then true else if (c == ']') = true then false
        else inside) = inside := by
      simp [hopen, hclose]
    rw [List.cons_append, splitHost, if_neg (by rw [hstop]; decide)]
    simp only [hstate, ih fun x hx => ha x (List.mem_cons_of_mem _ hx)]
    rfl

/-- An opening bracket puts the scan inside brackets. -/
theorem splitHost_open (special inside : Bool) (rest : List Char) :
    splitHost special inside ('[' :: rest) =
      ('[' :: (splitHost special true rest).1, (splitHost special true rest).2) := by
  rw [splitHost, if_neg (by simp [endsAuthority])]
  rfl

/-- A closing bracket takes the scan out of brackets. -/
theorem splitHost_close (special inside : Bool) (rest : List Char) :
    splitHost special inside (']' :: rest) =
      (']' :: (splitHost special false rest).1, (splitHost special false rest).2) := by
  rw [splitHost, if_neg (by simp [endsAuthority])]
  rfl

/-- A colon outside brackets ends the host. -/
theorem splitHost_colon (special : Bool) (rest : List Char) :
    splitHost special false (':' :: rest) = ([], ':' :: rest) := by
  rw [splitHost, if_pos (by simp)]

/-- The bracket shape of a host text that the authority scan reads whole up to a colon after
it: a name with no colon and no bracket, or one bracketed text with no bracket inside. -/
def HostShape (S : List Char) : Prop :=
  (∀ c ∈ S, c ≠ ':' ∧ c ≠ '[' ∧ c ≠ ']') ∨
    ∃ inner, S = '[' :: inner ++ [']'] ∧ '[' ∉ inner ∧ ']' ∉ inner

/-- A host of either bracket shape, with nothing in it that ends the authority, is read whole
up to the colon after it. -/
theorem splitHost_of_hostShape {special : Bool} {S : List Char} (hS : HostShape S)
    (hend : ∀ c ∈ S, endsAuthority special c = false) (rest : List Char) :
    splitHost special false (S ++ ':' :: rest) = (S, ':' :: rest) := by
  rcases hS with hname | ⟨inner, rfl, hopen, hclose⟩
  · rw [splitHost_append_chunk (fun c hc => ⟨(hname c hc).2.1, (hname c hc).2.2, hend c hc,
      fun _ => (hname c hc).1⟩), splitHost_colon]
    simp
  · have hinner : ∀ c ∈ inner, c ≠ '[' ∧ c ≠ ']' ∧ endsAuthority special c = false ∧
        (true = false → c ≠ ':') := fun c hc =>
      ⟨fun h => hopen (h ▸ hc), fun h => hclose (h ▸ hc),
        hend c (List.mem_cons_of_mem _ (List.mem_append_left _ hc)), by simp⟩
    simp only [List.cons_append, List.append_assoc, List.nil_append]
    rw [splitHost_open, splitHost_append_chunk hinner, splitHost_close, splitHost_colon]

/-! ## Ports -/

/-- The digits of a number are characters from `0` to `9`. -/
theorem toNat_of_mem_toDigits {c : Char} {n : Nat} (h : c ∈ Nat.toDigits 10 n) :
    48 ≤ c.toNat ∧ c.toNat ≤ 57 :=
  Char.isDigit_iff_toNat.1 (Nat.isDigit_of_mem_toDigits (by decide) (by decide) h)

/-- The decimal digits of a port read back as the port. -/
theorem readPort_toDigits (n : Nat) (hn : n ≤ 65535) (ys : List Char) :
    readPort 0 false (Nat.toDigits 10 n ++ ys) = readPort n true ys := by
  -- strong induction: the digits are those of `n / 10`, then the last digit of `n`
  induction n using Nat.strong_induction_on generalizing ys with
  | _ n ih =>
  rw [Nat.toDigits_eq_if (by decide)]
  split
  · next hlt =>
    rw [List.singleton_append, readPort, if_pos (by simp [Nat.isDigit_digitChar, hlt]),
      Nat.toNat_digitChar_sub_48_of_lt_ten hlt, if_neg (by omega)]
    simp
  · next hge =>
    have hlt : n % 10 < 10 := Nat.mod_lt _ (by decide)
    rw [List.append_assoc, List.singleton_append, ih (n / 10) (by omega) (by omega), readPort,
      if_pos (by simp [Nat.isDigit_digitChar, hlt]), Nat.toNat_digitChar_sub_48_of_lt_ten hlt,
      if_neg (by omega), show n / 10 * 10 + n % 10 = n by omega]

/-- The text of a port is its decimal digits. -/
theorem toList_toString_port (port : UInt16) :
    (toString port).toList = Nat.toDigits 10 port.toNat := by
  show (Nat.repr port.toNat).toList = _
  rw [Nat.repr_eq_ofList_toDigits, String.toList_ofList]

/-- The digits of a port, and nothing after them, read back as the port. -/
theorem readPort_digits {port : Nat} (hport : port < 65536) :
    readPort 0 false (Nat.toDigits 10 port) = .ok (some port, []) := by
  rw [← List.append_nil (Nat.toDigits 10 port), readPort_toDigits _ (by omega)]
  rfl

/-! ## Reading `scheme://host:port` -/

/-- Reading leaves a text alone when it neither begins nor ends with a control or a space and
holds no tab or line break. -/
theorem prepare_eq_toList {s : String} (hh : ∀ c ∈ s.toList.head?, 0x20 < c.toNat)
    (hl : ∀ c ∈ s.toList.getLast?, 0x20 < c.toNat)
    (hmid : ∀ c ∈ s.toList, c ≠ '\t' ∧ c ≠ '\n' ∧ c ≠ '\r') :
    prepare s = s.toList := by
  rw [prepare, Blank.trimListBy_eq_self (fun c hc => by simpa using hh c hc)
    (fun c hc => by simpa using hl c hc)]
  exact List.filter_eq_self.2 fun c hc => by simp [hmid c hc]

/-- A character that is not in a list has no last position in it. -/
theorem lastIndexOf?_of_not_mem {x : Char} {cs : List Char} (h : x ∉ cs) :
    lastIndexOf? x cs = none := by
  simp only [lastIndexOf?, Option.map_eq_none_iff, List.getLast?_eq_none_iff,
    List.filter_eq_nil_iff, beq_iff_eq]
  intro e he hx
  exact h (hx ▸ List.fst_mem_of_mem_zipIdx he)

/-- An authority with no `@` has no userinfo. -/
theorem splitUserinfo_of_not_mem {special : Bool} {cs : List Char} (h : '@' ∉ cs) :
    splitUserinfo special cs = .ok ("", "", cs) := by
  rw [splitUserinfo, lastIndexOf?_of_not_mem fun hm => h (List.takeWhile_subset _ hm)]

/-- No `@` follows a host without one in `host:port`. -/
theorem at_not_mem_address {S : List Char} (hat : '@' ∉ S) (port : Nat) :
    '@' ∉ S ++ ':' :: Nat.toDigits 10 port := by
  intro hm
  rcases List.mem_append.1 hm with h | h
  · exact hat h
  · rcases List.mem_cons.1 h with h | h
    · exact absurd h (by decide)
    · have := toNat_of_mem_toDigits h
      simp at this

/-- The slashes after a special scheme are skipped up to the first character that is neither
slash nor backslash. -/
theorem dropWhile_slashes {S rest : List Char} (hS : ∀ c ∈ S, endsAuthority true c = false) :
    ('/' :: '/' :: (S ++ ':' :: rest)).dropWhile (fun c => c == '/' || c == '\\') =
      S ++ ':' :: rest := by
  have hhead : ∀ c ∈ (S ++ ':' :: rest).head?, (c == '/' || c == '\\') = false := by
    intro c hc
    cases S with
    | nil =>
      simp only [List.nil_append, List.head?_cons, Option.mem_def, Option.some.injEq] at hc
      simp [← hc]
    | cons x xs =>
      have := hS x List.mem_cons_self
      simp_all [endsAuthority]
  simp only [List.dropWhile_cons, show ('/' == '/' || '/' == '\\') = true by decide, if_true]
  exact Blank.dropWhile_of_head? hhead

/-- An empty host path reads as the root of a special URL. -/
theorem readPath_special_nil : readPath true [] = ([""], []) := by
  decide

/-- The URL a special scheme reads from `//host:port`. -/
theorem parseSpecial_address (scheme : String) (d : Nat) {S : List Char} (hS : HostShape S)
    (hend : ∀ c ∈ S, endsAuthority true c = false) (hat : '@' ∉ S) {port : Nat}
    (hport : port < 65536) :
    parseSpecial scheme d ('/' :: '/' :: (S ++ ':' :: Nat.toDigits 10 port)) =
      if S = [] then .error .emptyHost
      else (Host.parseSpecial (String.ofList S)).map fun h =>
        { scheme, host := some h, port := if port = d then none else some port,
          path := .segments [""] } := by
  rw [parseSpecial, dropWhile_slashes hend]
  simp only [splitUserinfo_of_not_mem (at_not_mem_address hat port),
    splitHost_of_hostShape hS hend, bind, Except.bind, pure, Except.pure]
  cases S with
  | nil => rfl
  | cons x xs =>
    simp only [List.isEmpty_cons, Bool.false_eq_true, if_false, reduceCtorEq]
    cases Host.parseSpecial (String.ofList (x :: xs)) with
    | error e => rfl
    | ok h =>
      simp [readPort_digits hport, readPath_special_nil, readQueryFragment, Except.map]

/-- The URL a scheme that is not special reads from the authority `host:port`. -/
theorem parseOtherAuthority_address (scheme : String) {S : List Char} (hS : HostShape S)
    (hend : ∀ c ∈ S, endsAuthority false c = false) (hat : '@' ∉ S) {port : Nat}
    (hport : port < 65536) :
    parseOtherAuthority scheme (S ++ ':' :: Nat.toDigits 10 port) =
      if S = [] then .error .emptyHost
      else (Host.parseNonSpecial (String.ofList S)).map fun h =>
        { scheme, host := some h, port := some port } := by
  rw [parseOtherAuthority]
  simp only [splitUserinfo_of_not_mem (at_not_mem_address hat port),
    splitHost_of_hostShape hS hend, bind, Except.bind, pure, Except.pure]
  cases S with
  | nil =>
    rw [String.ofList_nil, Host.parseNonSpecial_empty]
    rfl
  | cons x xs =>
    cases hp : Host.parseNonSpecial (String.ofList (x :: xs)) with
    | error e => rfl
    | ok h =>
      have hne : h ≠ .domain "" := Host.parseNonSpecial_ne_empty (by simp) hp
      simp [hne, readPort_digits hport, readQueryFragment, Except.map]

/-! ## Hosts, credentials and ports of a parsed URL -/

/-- A URL has a host exactly when it holds one that is not the empty name. -/
theorem hasHost_iff (u : Url) : u.hasHost = true ↔ ∃ h, u.host = some h ∧ h ≠ .domain "" := by
  unfold hasHost
  split <;> simp_all

/-- A URL that can carry credentials takes both halves, percent-encoded for userinfo. -/
theorem withCredentials_of_canCarry {u : Url} (h : u.canCarryCredentials = true)
    (user pass : String) :
    (u.withUsername user).bind (·.withPassword pass) =
      some { u with username := Percent.encode .userinfo user,
                    password := Percent.encode .userinfo pass } := by
  have h' : ({ u with username := Percent.encode .userinfo user } : Url).canCarryCredentials =
      true := h
  simp [withUsername, withPassword, h, h']

/-- Whatever URL takes the credentials holds them percent-encoded for userinfo. -/
theorem withCredentials_eq_some {u u' : Url} {user pass : String}
    (h : (u.withUsername user).bind (·.withPassword pass) = some u') :
    u'.username = Percent.encode .userinfo user ∧ u'.password = Percent.encode .userinfo pass := by
  unfold withUsername at h
  split at h
  · unfold withPassword at h
    simp only [Option.bind_some] at h
    split at h
    · cases h
      exact ⟨rfl, rfl⟩
    · cases h
  · cases h

/-- The port a client connects to: the URL's own, or else the default port of its special
scheme. -/
def portOrKnownDefault (u : Url) : Option Nat :=
  match u.port with
  | some n => some n
  | none =>
    match schemeKind u.scheme with
    | .special d => some d
    | _ => none

end HttpCall.Url
