import HttpCall.Options.Json
import HttpCall.Proofs.Json.ReadBack
import Mathlib

/-!
# Options read from JSON

Options are read from a JSON object member by member: each member whose key names a field
sets that field, unknown members are ignored, and a field that no member names keeps its
default. A proxy is read the same way from an object of its own, except that its host and
port have no default and must be given. The reader visits the members in the order of
their keys; the statements below are about the object as a map, so they hold in any order.

* `JsonValue.memberOr` is the value a member of an object gives a field, or the field's old
  value when the object has no such member.
* `ProxyInfo.ofMembers?` is the proxy an object describes; `Options.overriddenBy` the options
  with every field an object names replaced.
* `ProxyInfo.typedMember` and `Options.typedMember` say which members are well-typed: the
  value of a member that names a field is of that field's type.

Main statements: a proxy object in which no field is given twice and every field given is
well-typed is read as the proxy it describes, or refused for its missing host or port
(`ProxyInfo.ofJson_obj`); an options object of the same kind is read as the defaults with
the fields it gives replaced (`Options.ofJson_obj`). Written as JSON text and read back,
options come back unchanged (`JsonValue.ofText?_toText`, `Options.ofJson_toJson`).
-/

namespace HttpCall

namespace JsonValue

/-- The count an unsigned JSON integer below `bound` stands for. -/
def countBelow? (bound : Nat) : JsonValue → Option Nat
  | num ⟨false, n, 0, true⟩ => if n < bound then some n else none
  | _ => none

/-- The truth value of a JSON boolean. -/
def bool? : JsonValue → Option Bool
  | bool b => some b
  | _ => none

/-- The text of a JSON string. -/
def string? : JsonValue → Option String
  | str s => some s
  | _ => none

/-- An optional value: `null` stands for none, any other value for what `f` gives it. -/
def optional? {α : Type} (f : JsonValue → Option α) : JsonValue → Option (Option α)
  | null => some none
  | v => (f v).map some

/-- The value that the member `key` of an object gives through `f`, or `old` when the object
has no such member. -/
def memberOr {α : Type} (ms : List (String × JsonValue)) (key : String)
    (f : JsonValue → Option α) (old : α) : α :=
  (((JsonValue.obj ms).member? key).bind f).getD old

section memberOr

variable {α : Type} (key : String) (f : JsonValue → Option α) (old : α)

@[simp]
theorem memberOr_nil : memberOr [] key f old = old := rfl

@[simp]
theorem memberOr_cons_self (v : JsonValue) (ms : List (String × JsonValue)) :
    memberOr ((key, v) :: ms) key f old = (f v).getD old := by
  simp [memberOr, member?]

theorem memberOr_cons_of_ne {k : String} (v : JsonValue) (ms : List (String × JsonValue))
    (h : k ≠ key) : memberOr ((k, v) :: ms) key f old = memberOr ms key f old := by
  simp [memberOr, member?, h]

theorem memberOr_of_not_mem {ms : List (String × JsonValue)} (h : key ∉ ms.map Prod.fst) :
    memberOr ms key f old = old := by
  induction ms with
  | nil => rfl
  | cons m ms ih =>
    obtain ⟨k, v⟩ := m
    simp only [List.map_cons, List.mem_cons, not_or] at h
    rw [memberOr_cons_of_ne key f old v ms (Ne.symm h.1), ih h.2]

/-- The order of the members does not matter for a key given at most once. -/
theorem memberOr_perm {ms ms' : List (String × JsonValue)} (hp : ms.Perm ms')
    (h : (ms.map Prod.fst).count key ≤ 1) : memberOr ms key f old = memberOr ms' key f old := by
  induction hp with
  | nil => rfl
  | cons m hp ih =>
    obtain ⟨k, v⟩ := m
    by_cases hk : k = key
    · subst hk
      simp
    · simp only [List.map_cons, List.count_cons, beq_iff_eq, hk, if_false, Nat.add_zero] at h
      rw [memberOr_cons_of_ne key f old v _ hk, memberOr_cons_of_ne key f old v _ hk, ih h]
  | swap m m' ms =>
    obtain ⟨k, v⟩ := m
    obtain ⟨k', v'⟩ := m'
    by_cases hk : k = key <;> by_cases hk' : k' = key
    · subst hk hk'
      simp at h
    · subst hk
      rw [memberOr_cons_of_ne _ _ _ _ _ hk', memberOr_cons_self, memberOr_cons_self]
    · subst hk'
      rw [memberOr_cons_of_ne _ _ _ _ _ hk, memberOr_cons_self, memberOr_cons_self]
    · rw [memberOr_cons_of_ne _ _ _ _ _ hk', memberOr_cons_of_ne _ _ _ _ _ hk,
        memberOr_cons_of_ne _ _ _ _ _ hk, memberOr_cons_of_ne _ _ _ _ _ hk']
  | trans hp hp' ih ih' =>
    rw [ih h, ih' (by rwa [← (hp.map Prod.fst).count_eq])]

/-- Members read in two runs: the second run's value of a key holds unless it does not give
that key. -/
theorem memberOr_append (p q : List (String × JsonValue))
    (h : key ∈ p.map Prod.fst → key ∉ q.map Prod.fst) :
    memberOr (p ++ q) key f old = memberOr q key f (memberOr p key f old) := by
  induction p with
  | nil => rfl
  | cons m p ih =>
    obtain ⟨k, v⟩ := m
    by_cases hk : k = key
    · subst hk
      simp only [List.cons_append, memberOr_cons_self]
      rw [memberOr_of_not_mem k f _ (h (by simp))]
    · simp only [List.map_cons, List.mem_cons, Ne.symm hk, false_or] at h
      rw [List.cons_append, memberOr_cons_of_ne key f old v _ hk,
        memberOr_cons_of_ne key f old v _ hk, ih h]

end memberOr

/-- A member's value read into an optional slot that starts empty. -/
theorem memberOr_map_some {α : Type} (ms : List (String × JsonValue)) (key : String)
    (f : JsonValue → Option α) :
    memberOr ms key (fun v => (f v).map some) none = ((JsonValue.obj ms).member? key).bind f := by
  simp only [memberOr]
  cases (JsonValue.obj ms).member? key with
  | none => rfl
  | some v =>
    simp only [Option.bind_some]
    cases f v <;> rfl

/-- The readers agree with the meaning of an unsigned integer, for any bound that fits in
64 bits. -/
theorem readUnsigned_of_countBelow? {bound n : Nat} {v : JsonValue} (name : String)
    (hb : bound ≤ Nat.pow 2 64) (h : v.countBelow? bound = some n) :
    v.readUnsigned bound name = .ok n := by
  match v, h with
  | num ⟨false, m, 0, true⟩, h =>
    simp only [countBelow?, Option.ite_none_right_eq_some, Option.some.injEq] at h
    obtain ⟨hm, rfl⟩ := h
    simp [readUnsigned, unexpected, hm, show m < Nat.pow 2 64 by omega]

theorem readString_of_string? {s : String} {v : JsonValue} (h : v.string? = some s) :
    v.readString = .ok s := by
  match v, h with
  | str s', h => simp_all [string?, readString]

theorem readBool_of_bool? {b : Bool} {v : JsonValue} (h : v.bool? = some b) :
    v.readBool = .ok b := by
  match v, h with
  | bool b', h => simp_all [bool?, readBool]

theorem readOption_of_optional? {α : Type} {read : JsonValue → Except DecodeError α}
    {f : JsonValue → Option α} (hf : ∀ v a, f v = some a → read v = .ok a) {v : JsonValue}
    {a : Option α} (h : v.optional? f = some a) : v.readOption read = .ok a := by
  cases v with
  | null => simp_all [optional?, readOption]
  | _ =>
    simp only [optional?, Option.map_eq_some_iff] at h
    obtain ⟨b, hb, rfl⟩ := h
    simp [readOption, hf _ _ hb, Except.map]

/-- The reader's order of the members is a reordering of them. -/
theorem sortedMembers_perm (ms : List (String × JsonValue)) : (sortedMembers ms).Perm ms :=
  List.mergeSort_perm _ _

theorem mem_of_member? {ms : List (String × JsonValue)} {key : String} {v : JsonValue}
    (h : (JsonValue.obj ms).member? key = some v) : (key, v) ∈ ms := by
  simp only [member?, Option.map_eq_some_iff] at h
  obtain ⟨⟨k, v'⟩, hf, rfl⟩ := h
  have hk : k = key := by simpa using List.find?_some hf
  subst hk
  exact List.mem_of_find?_eq_some hf

theorem ofInt_natCast (n : Nat) : JsonValue.ofInt n = .num ⟨false, n, 0, true⟩ := by
  simp [JsonValue.ofInt, JsonNumber.ofInt]

@[simp]
theorem countBelow?_ofInt (bound n : Nat) :
    (JsonValue.ofInt n).countBelow? bound = if n < bound then some n else none := by
  rw [ofInt_natCast]
  rfl

@[simp]
theorem optional?_ofOption_str (u : Option String) :
    (JsonValue.ofOption .str u).optional? string? = some u := by
  cases u <;> rfl

theorem wholeNumbers_ofOption_str (u : Option String) :
    (JsonValue.ofOption .str u).wholeNumbers := by
  cases u <;> rfl

end JsonValue

/-- A key given at most once in a run of members is not in the members before it nor in
those after it. -/
theorem not_mem_of_count_le_one {k : String} {p l : List String} (h : (p ++ k :: l).count k ≤ 1) :
    k ∉ p ∧ k ∉ l := by
  simp only [List.count_append, List.count_cons_self] at h
  exact ⟨List.count_eq_zero.1 (by omega), List.count_eq_zero.1 (by omega)⟩

namespace ProxyKind

/-- The protocol a JSON value names: its name as a string, or as the only key of an object
whose value is null. -/
def ofJson? : JsonValue → Option ProxyKind
  | .str s => ofName? s
  | .obj [(k, .null)] => ofName? k
  | _ => none

theorem eq_name_of_ofName? {s : String} {k : ProxyKind} (h : ofName? s = some k) :
    s = k.name := by
  unfold ofName? at h
  split at h <;> cases h <;> rfl

/-- A protocol named as a string or as the only key of an object is read as itself. -/
theorem readKind_of_ofJson? {k : ProxyKind} {v : JsonValue} (h : ofJson? v = some k) :
    ProxyInfo.readKind v = .ok k := by
  match v, h with
  | .str s, h =>
    rw [eq_name_of_ofName? h]
    cases k <;> rfl
  | .obj [(s, .null)], h =>
    rw [eq_name_of_ofName? h]
    cases k <;> rfl

@[simp]
theorem ofJson?_name (k : ProxyKind) : ofJson? (.str k.name) = some k := by
  cases k <;> rfl

end ProxyKind

namespace ProxyInfo

/-- The port a JSON integer gives. -/
def port? (v : JsonValue) : Option UInt16 :=
  (v.countBelow? 65536).map Nat.toUInt16

/-- The keys of the JSON form of a proxy. -/
def jsonKeys : List String := ["host", "port", "type", "username", "password"]

/-- Does a member of a proxy object that names a field hold a value of that field's type? -/
def typedMember : String × JsonValue → Bool
  | ("host", v) => v.string?.isSome
  | ("port", v) => (port? v).isSome
  | ("type", v) => (ProxyKind.ofJson? v).isSome
  | ("username", v) => (v.optional? JsonValue.string?).isSome
  | ("password", v) => (v.optional? JsonValue.string?).isSome
  | _ => true

/-- A proxy object that gives no field twice and every field it gives well-typed. -/
def TypedObject (ps : List (String × JsonValue)) : Prop :=
  (∀ k ∈ jsonKeys, (ps.map Prod.fst).count k ≤ 1) ∧ ∀ m ∈ ps, typedMember m

instance (ps : List (String × JsonValue)) : Decidable (TypedObject ps) :=
  inferInstanceAs (Decidable (_ ∧ _))

/-- The proxy a JSON object describes: host and port are required, the protocol defaults to
HTTP and each credential to none. -/
def ofMembers? (ps : List (String × JsonValue)) : Option ProxyInfo := do
  let host ← ((JsonValue.obj ps).member? "host").bind JsonValue.string?
  let port ← ((JsonValue.obj ps).member? "port").bind port?
  pure { host, port,
         kind := JsonValue.memberOr ps "type" ProxyKind.ofJson? .http,
         username := JsonValue.memberOr ps "username" (JsonValue.optional? JsonValue.string?) none,
         password := JsonValue.memberOr ps "password" (JsonValue.optional? JsonValue.string?) none }

/-- The fields that the members of a proxy object fill in, over those of `f`. -/
def Fields.overriddenBy (f : Fields) (ps : List (String × JsonValue)) : Fields where
  host := JsonValue.memberOr ps "host" (fun v => v.string?.map some) f.host
  port := JsonValue.memberOr ps "port" (fun v => (port? v).map some) f.port
  kind := JsonValue.memberOr ps "type" (fun v => (ProxyKind.ofJson? v).map some) f.kind
  username := JsonValue.memberOr ps "username"
    (fun v => (v.optional? JsonValue.string?).map some) f.username
  password := JsonValue.memberOr ps "password"
    (fun v => (v.optional? JsonValue.string?).map some) f.password

@[simp]
theorem port?_ofInt (n : UInt16) : port? (.ofInt n.toNat) = some n := by
  have hn : n.toNat < 65536 := n.toNat_lt_size
  simp [port?, hn]

theorem Fields.overriddenBy_nil (f : Fields) : f.overriddenBy [] = f := rfl

theorem Fields.overriddenBy_append (f : Fields) (p q : List (String × JsonValue))
    (h : ∀ k ∈ jsonKeys, k ∈ p.map Prod.fst → k ∉ q.map Prod.fst) :
    f.overriddenBy (p ++ q) = (f.overriddenBy p).overriddenBy q := by
  simp only [Fields.overriddenBy, jsonKeys, List.mem_cons, List.not_mem_nil, or_false,
    forall_eq_or_imp, forall_eq] at h ⊢
  obtain ⟨h1, h2, h3, h4, h5⟩ := h
  rw [JsonValue.memberOr_append _ _ _ _ _ h1, JsonValue.memberOr_append _ _ _ _ _ h2,
    JsonValue.memberOr_append _ _ _ _ _ h3, JsonValue.memberOr_append _ _ _ _ _ h4,
    JsonValue.memberOr_append _ _ _ _ _ h5]

theorem Fields.overriddenBy_perm (f : Fields) {ps ps' : List (String × JsonValue)}
    (hp : ps.Perm ps') (h : ∀ k ∈ jsonKeys, (ps.map Prod.fst).count k ≤ 1) :
    f.overriddenBy ps = f.overriddenBy ps' := by
  simp only [jsonKeys, List.mem_cons, List.not_mem_nil, or_false, forall_eq_or_imp,
    forall_eq] at h
  obtain ⟨h1, h2, h3, h4, h5⟩ := h
  simp only [Fields.overriddenBy, JsonValue.memberOr_perm _ _ _ hp h1,
    JsonValue.memberOr_perm _ _ _ hp h2, JsonValue.memberOr_perm _ _ _ hp h3,
    JsonValue.memberOr_perm _ _ _ hp h4, JsonValue.memberOr_perm _ _ _ hp h5]

/-- Setting a field not yet given stores the value read. -/
theorem setOnce_of_none {α : Type} (name : String) {r : Except DecodeError α} {a : α}
    (hr : r = .ok a) : setOnce name none r = .ok (some a) := by
  simp [setOnce, hr, Except.map]

/-- One member of a proxy object: a member that names a field not yet given fills it in, any
other member is ignored. -/
theorem visit_overriddenBy (p : List (String × JsonValue)) (k : String) (v : JsonValue)
    (hk : k ∈ jsonKeys → k ∉ p.map Prod.fst) (ht : typedMember (k, v)) :
    visit (({} : Fields).overriddenBy p) (k, v) =
      .ok ((({} : Fields).overriddenBy p).overriddenBy [(k, v)]) := by
  by_cases hmem : k ∈ jsonKeys
  · -- the field is still empty after `p`, so the member's value is stored
    have hfree : ∀ {α : Type} (f : JsonValue → Option (Option α)),
        JsonValue.memberOr p k f none = none :=
      fun f => JsonValue.memberOr_of_not_mem _ f none (hk hmem)
    simp only [jsonKeys, List.mem_cons, List.not_mem_nil, or_false] at hmem
    rcases hmem with rfl | rfl | rfl | rfl | rfl
    · obtain ⟨s, hs⟩ := Option.isSome_iff_exists.1 ht
      simp [visit, Fields.overriddenBy, hfree, hs,
        setOnce_of_none _ (JsonValue.readString_of_string? hs), JsonValue.memberOr_cons_of_ne]
    · obtain ⟨n, hn⟩ := Option.isSome_iff_exists.1 ht
      obtain ⟨m, hm, rfl⟩ := Option.map_eq_some_iff.1 hn
      have hread : readPort v = .ok m.toUInt16 := by
        simp [readPort, JsonValue.readUnsigned_of_countBelow? "u16" (by decide) hm, Except.map]
      simp [visit, Fields.overriddenBy, hfree, port?, hm, setOnce_of_none _ hread,
        JsonValue.memberOr_cons_of_ne]
    · obtain ⟨kind, hkind⟩ := Option.isSome_iff_exists.1 ht
      simp [visit, Fields.overriddenBy, hfree, hkind,
        setOnce_of_none _ (ProxyKind.readKind_of_ofJson? hkind), JsonValue.memberOr_cons_of_ne]
    -- the two credentials are read alike
    all_goals
      obtain ⟨u, hu⟩ := Option.isSome_iff_exists.1 ht
      simp [visit, Fields.overriddenBy, hfree, hu, JsonValue.memberOr_cons_of_ne, setOnce_of_none _
        (JsonValue.readOption_of_optional? (fun _ _ => JsonValue.readString_of_string?) hu)]
  · -- a member that names no field is ignored
    simp only [jsonKeys, List.mem_cons, List.not_mem_nil, or_false, not_or] at hmem
    obtain ⟨h1, h2, h3, h4, h5⟩ := hmem
    simp [visit, Fields.overriddenBy, JsonValue.memberOr_cons_of_ne, h1, h2, h3, h4, h5]
    rfl

/-- The members of a proxy object, visited one after the other, fill in the fields they
give. The invariant: the fields after the members `p` are those `p` gives. -/
theorem foldlM_visit (l p : List (String × JsonValue))
    (hkeys : ∀ k ∈ jsonKeys, ((p ++ l).map Prod.fst).count k ≤ 1)
    (ht : ∀ m ∈ l, typedMember m) :
    l.foldlM visit (({} : Fields).overriddenBy p) = .ok (({} : Fields).overriddenBy (p ++ l)) := by
  induction l generalizing p with
  | nil => simp [pure, Except.pure]
  | cons m l ih =>
    obtain ⟨k, v⟩ := m
    have hfresh : k ∈ jsonKeys → k ∉ p.map Prod.fst := fun hk =>
      (not_mem_of_count_le_one (by simpa using hkeys k hk)).1
    have happ : ({} : Fields).overriddenBy (p ++ [(k, v)]) =
        (({} : Fields).overriddenBy p).overriddenBy [(k, v)] := by
      refine Fields.overriddenBy_append _ _ _ fun K hK hKp => ?_
      rintro hKk
      simp only [List.map_cons, List.map_nil, List.mem_singleton] at hKk
      subst hKk
      exact hfresh hK hKp
    rw [List.foldlM_cons, visit_overriddenBy p k v hfresh (ht _ (by simp)), ← happ]
    simp only [bind, Except.bind]
    rw [ih (p ++ [(k, v)]) (by simpa using hkeys) (fun m hm => ht m (by simp [hm]))]
    simp

/-- The last step of reading a proxy: host and port must have been given. -/
theorem finish_overriddenBy (ps : List (String × JsonValue)) (h : ∀ m ∈ ps, typedMember m) :
    finish (({} : Fields).overriddenBy ps) =
      match ofMembers? ps with
      | some p => .ok p
      | none => .error (.missingField
          (if ((JsonValue.obj ps).member? "host").isSome then "port" else "host")) := by
  simp only [finish, Fields.overriddenBy, JsonValue.memberOr_map_some, ofMembers?]
  cases hh : ((JsonValue.obj ps).member? "host").bind JsonValue.string? with
  | none =>
    -- a host that is given is a string, so none is given
    have habsent : (JsonValue.obj ps).member? "host" = none := by
      cases hv : (JsonValue.obj ps).member? "host" with
      | none => rfl
      | some v =>
        have ht := h _ (JsonValue.mem_of_member? hv)
        simp only [typedMember, Option.isSome_iff_exists] at ht
        obtain ⟨s, hs⟩ := ht
        simp [hv, hs] at hh
    simp [habsent, bind, Except.bind, throw, throwThe, MonadExceptOf.throw]
  | some host =>
    have hgiven : ((JsonValue.obj ps).member? "host").isSome := by
      cases hv : (JsonValue.obj ps).member? "host" <;> simp_all
    cases hp : ((JsonValue.obj ps).member? "port").bind port? with
    | none => simp [hgiven, bind, Except.bind, throw, throwThe, MonadExceptOf.throw, pure,
        Except.pure]
    | some port => simp [bind, Except.bind, pure, Except.pure, JsonValue.memberOr]

/-- **A proxy read from a JSON object.** An object that gives no field twice and every field
it gives with a value of that field's type is read as the proxy it describes: host and port
as given, the protocol HTTP unless given, each credential none unless given. An object that
lacks the host, or has the host but lacks the port, is refused for the first that it lacks. -/
theorem ofJson_obj (ps : List (String × JsonValue)) (h : TypedObject ps) :
    ofJson (.obj ps) =
      match ofMembers? ps with
      | some p => .ok p
      | none => .error (.missingField
          (if ((JsonValue.obj ps).member? "host").isSome then "port" else "host")) := by
  obtain ⟨hkeys, ht⟩ := h
  -- the reader sorts the members by key; the fields they give do not depend on the order
  have hperm := JsonValue.sortedMembers_perm ps
  have hcount : ∀ k ∈ jsonKeys, (((JsonValue.sortedMembers ps).map Prod.fst).count k) ≤ 1 :=
    fun k hk => by rw [(hperm.map Prod.fst).count_eq]; exact hkeys k hk
  have hrun := foldlM_visit (JsonValue.sortedMembers ps) [] (by simpa using hcount)
    fun m hm => ht m (hperm.mem_iff.1 hm)
  rw [Fields.overriddenBy_nil, List.nil_append] at hrun
  simp only [ofJson, hrun, bind, Except.bind]
  rw [Fields.overriddenBy_perm _ hperm hcount, finish_overriddenBy ps ht]

/-- The JSON form of a proxy is a well-typed object that describes it. -/
theorem toJson_describes (p : ProxyInfo) :
    ∃ ps, p.toJson = .obj ps ∧ TypedObject ps ∧ ofMembers? ps = some p := by
  refine ⟨_, rfl, ⟨?_, ?_⟩, ?_⟩
  · simp [jsonKeys]
  · simp [typedMember, JsonValue.string?]
  · simp [ofMembers?, JsonValue.member?, JsonValue.memberOr, JsonValue.string?]

/-- The JSON form of a proxy has only integers for numbers. -/
theorem toJson_wholeNumbers (p : ProxyInfo) : p.toJson.wholeNumbers := by
  simp [toJson, JsonValue.wholeNumbers, JsonValue.wholeNumbersMembers,
    JsonValue.ofInt_natCast, JsonValue.wholeNumbers_ofOption_str]

end ProxyInfo

namespace Options

/-- The keys of the JSON form of options. -/
def jsonKeys : List String :=
  ["connect_timeout_millis", "read_timeout_millis", "write_timeout_millis", "follow_redirects",
    "retry_count", "proxy_info"]

/-- The milliseconds a JSON count gives. -/
def millis? (v : JsonValue) : Option UInt64 :=
  (v.countBelow? UInt64.size).map Nat.toUInt64

/-- The retry count a JSON count gives. -/
def retries? (v : JsonValue) : Option UInt32 :=
  (v.countBelow? UInt32.size).map Nat.toUInt32

/-- The proxy a JSON value gives: none for null, the proxy an object describes. -/
def proxy? : JsonValue → Option (Option ProxyInfo)
  | .null => some none
  | .obj ps => (ProxyInfo.ofMembers? ps).map some
  | _ => none

/-- Does a member of an options object that names a field hold a value of that field's
type? A proxy is null or a well-typed proxy object with a host and a port. -/
def typedMember : String × JsonValue → Bool
  | ("connect_timeout_millis", v) => (millis? v).isSome
  | ("read_timeout_millis", v) => (millis? v).isSome
  | ("write_timeout_millis", v) => (millis? v).isSome
  | ("follow_redirects", v) => v.bool?.isSome
  | ("retry_count", v) => (retries? v).isSome
  | ("proxy_info", .null) => true
  | ("proxy_info", .obj ps) => decide (ProxyInfo.TypedObject ps) && (ProxyInfo.ofMembers? ps).isSome
  | ("proxy_info", _) => false
  | _ => true

/-- An options object that gives no field twice and every field it gives well-typed. -/
def TypedObject (ms : List (String × JsonValue)) : Prop :=
  (∀ k ∈ jsonKeys, (ms.map Prod.fst).count k ≤ 1) ∧ ∀ m ∈ ms, typedMember m

instance (ms : List (String × JsonValue)) : Decidable (TypedObject ms) :=
  inferInstanceAs (Decidable (_ ∧ _))

/-- The options `o` with every field that the members of a JSON object give replaced by the
value given. -/
def overriddenBy (o : Options) (ms : List (String × JsonValue)) : Options where
  connectTimeoutMillis :=
    JsonValue.memberOr ms "connect_timeout_millis" millis? o.connectTimeoutMillis
  readTimeoutMillis := JsonValue.memberOr ms "read_timeout_millis" millis? o.readTimeoutMillis
  writeTimeoutMillis := JsonValue.memberOr ms "write_timeout_millis" millis? o.writeTimeoutMillis
  followRedirects := JsonValue.memberOr ms "follow_redirects" JsonValue.bool? o.followRedirects
  retryCount := JsonValue.memberOr ms "retry_count" retries? o.retryCount
  proxy := JsonValue.memberOr ms "proxy_info" proxy? o.proxy

theorem overriddenBy_append (o : Options) (p q : List (String × JsonValue))
    (h : ∀ k ∈ jsonKeys, k ∈ p.map Prod.fst → k ∉ q.map Prod.fst) :
    o.overriddenBy (p ++ q) = (o.overriddenBy p).overriddenBy q := by
  simp only [overriddenBy, jsonKeys, List.mem_cons, List.not_mem_nil, or_false,
    forall_eq_or_imp, forall_eq] at h ⊢
  obtain ⟨h1, h2, h3, h4, h5, h6⟩ := h
  rw [JsonValue.memberOr_append _ _ _ _ _ h1, JsonValue.memberOr_append _ _ _ _ _ h2,
    JsonValue.memberOr_append _ _ _ _ _ h3, JsonValue.memberOr_append _ _ _ _ _ h4,
    JsonValue.memberOr_append _ _ _ _ _ h5, JsonValue.memberOr_append _ _ _ _ _ h6]

theorem overriddenBy_perm (o : Options) {ms ms' : List (String × JsonValue)} (hp : ms.Perm ms')
    (h : ∀ k ∈ jsonKeys, (ms.map Prod.fst).count k ≤ 1) :
    o.overriddenBy ms = o.overriddenBy ms' := by
  simp only [jsonKeys, List.mem_cons, List.not_mem_nil, or_false, forall_eq_or_imp,
    forall_eq] at h
  obtain ⟨h1, h2, h3, h4, h5, h6⟩ := h
  simp only [overriddenBy, JsonValue.memberOr_perm _ _ _ hp h1,
    JsonValue.memberOr_perm _ _ _ hp h2, JsonValue.memberOr_perm _ _ _ hp h3,
    JsonValue.memberOr_perm _ _ _ hp h4, JsonValue.memberOr_perm _ _ _ hp h5,
    JsonValue.memberOr_perm _ _ _ hp h6]

theorem readMillis_of_millis? {v : JsonValue} {x : UInt64} (h : millis? v = some x) :
    readMillis v = .ok x := by
  obtain ⟨n, hn, rfl⟩ := Option.map_eq_some_iff.1 h
  simp [readMillis, JsonValue.readUnsigned_of_countBelow? "u64" (by decide) hn, Except.map]

theorem readRetries_of_retries? {v : JsonValue} {x : UInt32} (h : retries? v = some x) :
    readRetries v = .ok x := by
  obtain ⟨n, hn, rfl⟩ := Option.map_eq_some_iff.1 h
  simp [readRetries, JsonValue.readUnsigned_of_countBelow? "u32" (by decide) hn, Except.map]

/-- A well-typed proxy member is read as the proxy it gives. -/
theorem readProxy_of_typed {v : JsonValue} (h : typedMember ("proxy_info", v)) :
    ∃ x, proxy? v = some x ∧ readProxy v = .ok x := by
  cases v with
  | null => exact ⟨none, rfl, rfl⟩
  | obj ps =>
    simp only [typedMember, Bool.and_eq_true, decide_eq_true_eq] at h
    obtain ⟨hps, hsome⟩ := h
    obtain ⟨p, hp⟩ := Option.isSome_iff_exists.1 hsome
    refine ⟨some p, by simp [proxy?, hp], ?_⟩
    simp [readProxy, JsonValue.readOption, ProxyInfo.ofJson_obj ps hps, hp, Except.map]
  | _ => simp [typedMember] at h

/-- Setting a field not yet seen records it and stores the value read. -/
theorem setOnce_of_not_seen {α : Type} (f : Fields) (name : String) {r : Except DecodeError α}
    {a : α} (set : Options → α → Options) (hn : name ∉ f.seen) (hr : r = .ok a) :
    setOnce f name r set = .ok ⟨set f.options a, name :: f.seen⟩ := by
  simp [setOnce, hn, hr, Except.map]

/-- One member of an options object: a member that names a field not yet seen sets it,
any other member is ignored. -/
theorem visit_typed (f : Fields) (k : String) (v : JsonValue) (hk : k ∈ jsonKeys → k ∉ f.seen)
    (ht : typedMember (k, v)) :
    ∃ seen, visit f (k, v) = .ok ⟨f.options.overriddenBy [(k, v)], seen⟩ ∧
      ∀ x ∈ seen, x = k ∨ x ∈ f.seen := by
  by_cases hmem : k ∈ jsonKeys
  · have hfresh := hk hmem
    refine ⟨k :: f.seen, ?_, fun x hx => List.mem_cons.1 hx⟩
    simp only [jsonKeys, List.mem_cons, List.not_mem_nil, or_false] at hmem
    rcases hmem with rfl | rfl | rfl | rfl | rfl | rfl
    -- the three timeouts are read alike
    iterate 3
      obtain ⟨x, hx⟩ := Option.isSome_iff_exists.1 ht
      rw [visit, setOnce_of_not_seen f _ _ hfresh (readMillis_of_millis? hx)]
      simp [overriddenBy, hx, JsonValue.memberOr_cons_of_ne]
    · obtain ⟨x, hx⟩ := Option.isSome_iff_exists.1 ht
      rw [visit, setOnce_of_not_seen f _ _ hfresh (JsonValue.readBool_of_bool? hx)]
      simp [overriddenBy, hx, JsonValue.memberOr_cons_of_ne]
    · obtain ⟨x, hx⟩ := Option.isSome_iff_exists.1 ht
      rw [visit, setOnce_of_not_seen f _ _ hfresh (readRetries_of_retries? hx)]
      simp [overriddenBy, hx, JsonValue.memberOr_cons_of_ne]
    · obtain ⟨x, hx, hread⟩ := readProxy_of_typed ht
      rw [visit, setOnce_of_not_seen f _ _ hfresh hread]
      simp [overriddenBy, hx, JsonValue.memberOr_cons_of_ne]
  · -- a member that names no field is ignored
    refine ⟨f.seen, ?_, fun x hx => .inr hx⟩
    simp only [jsonKeys, List.mem_cons, List.not_mem_nil, or_false, not_or] at hmem
    obtain ⟨h1, h2, h3, h4, h5, h6⟩ := hmem
    simp [visit, overriddenBy, JsonValue.memberOr_cons_of_ne, h1, h2, h3, h4, h5, h6]

/-- The members of an options object, visited one after the other, set the fields they
give. The invariant: no field seen so far is given again by the members still to come. -/
theorem foldlM_visit (l : List (String × JsonValue)) (f : Fields)
    (hkeys : ∀ k ∈ jsonKeys, (l.map Prod.fst).count k ≤ 1)
    (hseen : ∀ k ∈ f.seen, k ∈ jsonKeys → k ∉ l.map Prod.fst)
    (ht : ∀ m ∈ l, typedMember m) :
    (l.foldlM visit f).map (·.options) = .ok (f.options.overriddenBy l) := by
  induction l generalizing f with
  | nil => rfl
  | cons m l ih =>
    obtain ⟨k, v⟩ := m
    have hnot : k ∈ jsonKeys → k ∉ l.map Prod.fst := fun hkj => by
      have hk := hkeys k hkj
      simp only [List.map_cons, List.count_cons_self] at hk
      exact List.count_eq_zero.1 (by omega)
    have hfresh : k ∈ jsonKeys → k ∉ f.seen := fun hkj hks => hseen k hks hkj (by simp)
    obtain ⟨seen, hstep, hsub⟩ := visit_typed f k v hfresh (ht _ (by simp))
    have hkeys' : ∀ K ∈ jsonKeys, (l.map Prod.fst).count K ≤ 1 := fun K hK =>
      le_trans (by simp [List.count_cons]) (hkeys K hK)
    have hseen' : ∀ x ∈ seen, x ∈ jsonKeys → x ∉ l.map Prod.fst := fun x hx hxj => by
      rcases hsub x hx with rfl | hx
      · exact hnot hxj
      · exact fun hxl => hseen x hx hxj (by simp [hxl])
    rw [List.foldlM_cons, hstep]
    simp only [bind, Except.bind]
    rw [ih ⟨_, seen⟩ hkeys' hseen' fun m hm => ht m (by simp [hm]), ← overriddenBy_append]
    · rfl
    · intro K _ hK
      simp only [List.map_cons, List.map_nil, List.mem_singleton] at hK
      subst hK
      exact hnot ‹_›

/-- **Options read from a JSON object.** An object that gives no field twice and every field
it gives with a value of that field's type is read as the default options with exactly the
fields it gives replaced; members that name no field are ignored. -/
theorem ofJson_obj (ms : List (String × JsonValue)) (h : TypedObject ms) :
    ofJson (.obj ms) = .ok (defaults.overriddenBy ms) := by
  obtain ⟨hkeys, ht⟩ := h
  -- the reader sorts the members by key; the fields they give do not depend on the order
  have hperm := JsonValue.sortedMembers_perm ms
  have hcount : ∀ k ∈ jsonKeys, (((JsonValue.sortedMembers ms).map Prod.fst).count k) ≤ 1 :=
    fun k hk => by rw [(hperm.map Prod.fst).count_eq]; exact hkeys k hk
  have hrun := foldlM_visit (JsonValue.sortedMembers ms) {} hcount (by simp)
    fun m hm => ht m (hperm.mem_iff.1 hm)
  simp only [ofJson, hrun]
  rw [overriddenBy_perm _ hperm hcount]
  rfl

@[simp]
theorem millis?_ofInt (n : UInt64) : millis? (.ofInt n.toNat) = some n := by
  simp [millis?, n.toNat_lt_size]

@[simp]
theorem retries?_ofInt (n : UInt32) : retries? (.ofInt n.toNat) = some n := by
  simp [retries?, n.toNat_lt_size]

theorem proxy?_ofOption_toJson (p : Option ProxyInfo) :
    proxy? (.ofOption ProxyInfo.toJson p) = some p := by
  cases p with
  | none => rfl
  | some p =>
    obtain ⟨ps, hps, -, hp⟩ := p.toJson_describes
    simp [JsonValue.ofOption, hps, proxy?, hp]

/-- The JSON form of options is a well-typed object that gives every field its value. -/
theorem toJson_describes (o : Options) :
    ∃ ms, o.toJson = .obj ms ∧ TypedObject ms ∧ defaults.overriddenBy ms = o := by
  refine ⟨_, rfl, ⟨?_, ?_⟩, ?_⟩
  · simp [jsonKeys]
  · have hproxy : typedMember ("proxy_info", .ofOption ProxyInfo.toJson o.proxy) := by
      cases o.proxy with
      | none => rfl
      | some p =>
        obtain ⟨ps, hps, htyped, hp⟩ := p.toJson_describes
        simp [JsonValue.ofOption, hps, typedMember, htyped, hp]
    intro m hm
    simp only [List.mem_cons, List.not_mem_nil, or_false] at hm
    -- the proxy is typed by `hproxy`, the counts and the flag by their meanings
    rcases hm with rfl | rfl | rfl | rfl | rfl | rfl
    all_goals first | exact hproxy | simp [typedMember, JsonValue.bool?]
  · simp [overriddenBy, JsonValue.memberOr, JsonValue.member?, JsonValue.bool?,
      proxy?_ofOption_toJson]

/-- Options read back from their JSON form are unchanged. -/
theorem ofJson_toJson (o : Options) : ofJson o.toJson = .ok o := by
  obtain ⟨ms, hms, htyped, hover⟩ := o.toJson_describes
  rw [hms, ofJson_obj ms htyped, hover]

/-- The JSON form of options has only integers for numbers. -/
theorem toJson_wholeNumbers (o : Options) : o.toJson.wholeNumbers := by
  have hproxy : (JsonValue.ofOption ProxyInfo.toJson o.proxy).wholeNumbers := by
    cases o.proxy with
    | none => rfl
    | some p => exact p.toJson_wholeNumbers
  simp [toJson, JsonValue.wholeNumbers, JsonValue.wholeNumbersMembers, JsonValue.ofInt_natCast,
    hproxy]

/-- **Options through JSON.** Options written as JSON text read back as their JSON form, and
that form reads back as the options. An options object that gives no field twice and every
field it gives with a value of that field's type reads as the default options with exactly
the fields it gives replaced. A proxy object of that kind reads as the proxy it describes,
whose protocol is HTTP and whose credentials are none unless given, and is refused for the
first of host and port that it lacks. -/
theorem toText_reads_back_and_objects_override_defaults :
    (∀ o : Options, JsonValue.ofText? o.toText = some o.toJson ∧ ofJson o.toJson = .ok o) ∧
    (∀ ms, TypedObject ms → ofJson (.obj ms) = .ok (defaults.overriddenBy ms)) ∧
    (∀ ps, ProxyInfo.TypedObject ps →
      ProxyInfo.ofJson (.obj ps) =
        match ProxyInfo.ofMembers? ps with
        | some p => .ok p
        | none => .error (.missingField
            (if ((JsonValue.obj ps).member? "host").isSome then "port" else "host"))) :=
  ⟨fun o => ⟨JsonValue.ofText?_toText o.toJson o.toJson_wholeNumbers, o.ofJson_toJson⟩,
    ofJson_obj, ProxyInfo.ofJson_obj⟩

/-- The partial object of the options' own test, a retry count and a SOCKS proxy given by
host and port, reads as the defaults with those two fields set; a proxy object with a host
and no port is refused for the port. -/
theorem retries_and_socks_proxy_object :
    (TypedObject [("retry_count", .ofInt 3), ("proxy_info",
        .obj [("host", .str "proxy"), ("port", .ofInt 1080), ("type", .str "socks")])] ∧
      ofJson (.obj [("retry_count", .ofInt 3), ("proxy_info",
        .obj [("host", .str "proxy"), ("port", .ofInt 1080), ("type", .str "socks")])]) =
        .ok { retryCount := 3, proxy := some { host := "proxy", port := 1080, kind := .socks } }) ∧
    (ProxyInfo.TypedObject [("host", .str "proxy")] ∧
      ProxyInfo.ofJson (.obj [("host", .str "proxy")]) = .error (.missingField "port")) := by
  have h1 : TypedObject [("retry_count", .ofInt 3), ("proxy_info",
      .obj [("host", .str "proxy"), ("port", .ofInt 1080), ("type", .str "socks")])] := by
    decide
  have h2 : ProxyInfo.TypedObject [("host", .str "proxy")] := by
    decide
  refine ⟨⟨h1, ?_⟩, ⟨h2, ?_⟩⟩
  · rw [toText_reads_back_and_objects_override_defaults.2.1 _ h1]
    simp [overriddenBy, JsonValue.memberOr, JsonValue.member?, retries?, proxy?,
      ProxyInfo.ofMembers?, JsonValue.string?, ProxyInfo.port?, defaults]
    decide
  · rw [toText_reads_back_and_objects_override_defaults.2.2 _ h2]
    simp [ProxyInfo.ofMembers?, JsonValue.member?, JsonValue.string?]

end Options

end HttpCall
