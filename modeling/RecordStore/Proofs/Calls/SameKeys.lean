import RecordStore.Proofs.RecordAddresses

/-! # Keys in two forms

A key whose identifier is empty is the key without identifier. Calls see a key through its kind and
its identifier, so that no call, and no session, tells the two forms apart. -/

namespace RecordStore

open Session (Call Answer KeyRef Memory)

namespace Key

/-- Keys that are equal, in whatever form. -/
def Same (k k' : Key) : Prop := (k == k') = true

variable {k k' : Key}

theorem Same.refl (k : Key) : k.Same k := beq_iff.mpr ⟨rfl, rfl⟩

theorem same_addressed_empty (kind : Kind) : (unaddressed kind).Same (addressed kind "") :=
  beq_iff.mpr ⟨rfl, rfl⟩

theorem Same.kind_eq (h : k.Same k') : k.kind = k'.kind := (beq_iff.mp h).1

theorem Same.id?_eq (h : k.Same k') : k.id? = k'.id? := (beq_iff.mp h).2

theorem Same.beq_eq (h : k.Same k') (other : Key) : (k == other) = (k' == other) := by
  have hidentity : k.identity = k'.identity := Prod.ext h.kind_eq h.id?_eq
  change (k.identity == other.identity) = (k'.identity == other.identity)
  rw [hidentity]

theorem Same.contains_eq (h : k.Same k') (keys : List Key) : keys.contains k = keys.contains k' := by
  induction keys with
  | nil => rfl
  | cons other keys ih => simp only [List.contains_cons, h.beq_eq, ih]

end Key

/-! ## One call -/

namespace Session

/-- The same call, about keys that are related. -/
inductive Call.Same {κ : Type} (R : κ → κ → Prop) : Call κ → Call κ → Prop
  | info : Same R .info .info
  | config : Same R .config .config
  | get {k k' : κ} (h : R k k') : Same R (.get k) (.get k')
  | getPayload {k k' : κ} (h : R k k') : Same R (.getPayload k) (.getPayload k')
  | urlForKey {k k' : κ} (h : R k k') : Same R (.urlForKey k) (.urlForKey k')
  | set {k k' : κ} (h : R k k') (value : Json) (fields : Fields) :
    Same R (.set k value fields) (.set k' value fields)
  | setWithOptions {k k' : κ} (h : R k k') (payload : Payload) (options : CreateOptions) :
    Same R (.setWithOptions k payload options) (.setWithOptions k' payload options)
  | listKeys : Same R .listKeys .listKeys
  | hasKey {k k' : κ} (h : R k k') : Same R (.hasKey k) (.hasKey k')
  | removeKey {k k' : κ} (h : R k k') : Same R (.removeKey k) (.removeKey k')
  | validateFields (fields : Fields) : Same R (.validateFields fields) (.validateFields fields)
  | decodeListing (document : Document) : Same R (.decodeListing document) (.decodeListing document)

end Session

namespace Backend

variable (b : Backend) {k k' : Key}

theorem checkKind_same (h : k.Same k') : b.checkKind k = b.checkKind k' := by
  rw [checkKind, checkKind, h.kind_eq]

theorem keyUrl_same (h : k.Same k') : b.keyUrl k = b.keyUrl k' := by
  rw [keyUrl, keyUrl, b.checkKind_same h, h.id?_eq]

theorem get_same (h : k.Same k') : b.get k = b.get k' := by
  rw [get, get, b.keyUrl_same h]

theorem set_same (h : k.Same k') (value : Json) (fields : Fields) :
    b.set k value fields = b.set k' value fields := by
  rw [set, set, b.checkKind_same h, h.id?_eq]

theorem checkOptions_same (h : k.Same k') (options : CreateOptions) :
    checkOptions k options = checkOptions k' options := by
  rw [checkOptions, checkOptions, h.kind_eq]

theorem setWithOptions_same (h : k.Same k') (payload : Payload) (options : CreateOptions) :
    b.setWithOptions k payload options = b.setWithOptions k' payload options := by
  have hset := fun value => b.set_same h value options.toFields
  simp only [setWithOptions, checkOptions_same h, hset]

theorem hasKey_same (h : k.Same k') : b.hasKey k = b.hasKey k' := by
  simp only [hasKey, h.contains_eq]

theorem removeKey_same (h : k.Same k') : b.removeKey k = b.removeKey k' := by
  have hid : requireId .remove k = requireId .remove k' := by rw [requireId, requireId, h.id?_eq]
  rw [removeKey, removeKey, b.checkKind_same h, hid]

/-- The same call is made for keys that are equal. -/
theorem perform_same {call call' : Call Key} (h : call.Same Key.Same call') :
    call.perform b = call'.perform b := by
  cases h with
  | get h => simp only [Call.perform, b.get_same h]
  | getPayload h => simp only [Call.perform, getPayload, b.get_same h]
  | urlForKey h => simp only [Call.perform, b.keyUrl_same h]
  | set h value fields => simp only [Call.perform, b.set_same h]
  | setWithOptions h payload options => simp only [Call.perform, b.setWithOptions_same h]
  | hasKey h => simp only [Call.perform, b.hasKey_same h]
  | removeKey h => simp only [Call.perform, b.removeKey_same h]
  | info | config | listKeys | validateFields _ | decodeListing _ => rfl

end Backend

/-! ## Sessions -/

namespace Session

/-- References to keys that are equal: to the same place, or to two forms of one key. -/
inductive KeyRef.Same : KeyRef → KeyRef → Prop
  | given {k k' : Key} (h : k.Same k') : Same (.given k) (.given k')
  | created : Same .created .created
  | listed (index : Nat) : Same (.listed index) (.listed index)

theorem KeyRef.Same.key? {r r' : KeyRef} (h : r.Same r') (m : Memory) :
    Option.Rel Key.Same (m.key? r) (m.key? r') := by
  have hrefl : ∀ key : Option Key, Option.Rel Key.Same key key := by
    intro key
    cases key with
    | none => exact .none
    | some key => exact .some (.refl key)
  cases h with
  | given h => exact .some h
  | created => exact hrefl _
  | listed index => exact hrefl _

private theorem rel_map {κ α : Type} {R : κ → κ → Prop} {S : α → α → Prop} {x y : Option κ}
    {f g : κ → α} (h : Option.Rel R x y) (hfg : ∀ {k k'}, R k k' → S (f k) (g k')) :
    Option.Rel S (x.map f) (y.map g) := by
  cases h with
  | some h => exact .some (hfg h)
  | none => exact .none

theorem Call.Same.resolve {call call' : Call KeyRef} (h : call.Same KeyRef.Same call') (m : Memory) :
    Option.Rel (Call.Same Key.Same) (call.resolve m) (call'.resolve m) := by
  cases h with
  | get h => exact rel_map (h.key? m) .get
  | getPayload h => exact rel_map (h.key? m) .getPayload
  | urlForKey h => exact rel_map (h.key? m) .urlForKey
  | set h value fields => exact rel_map (h.key? m) fun h => .set h value fields
  | setWithOptions h payload options =>
    exact rel_map (h.key? m) fun h => .setWithOptions h payload options
  | hasKey h => exact rel_map (h.key? m) .hasKey
  | removeKey h => exact rel_map (h.key? m) .removeKey
  | info => exact .some .info
  | config => exact .some .config
  | listKeys => exact .some .listKeys
  | validateFields fields => exact .some (.validateFields fields)
  | decodeListing document => exact .some (.decodeListing document)

theorem Call.Same.after_eq {call call' : Call Key} (h : call.Same Key.Same call') (m : Memory)
    (result : Except StoreError Answer) : m.after call result = m.after call' result := by
  cases h <;> rfl

theorem run_same (b : Backend) {σ : Type} (t : Transport σ) {calls calls' : List (Call KeyRef)}
    (h : List.Forall₂ (Call.Same KeyRef.Same) calls calls') (m : Memory) (state : σ) :
    run b t m state calls = run b t m state calls' := by
  -- What is remembered and how the transport stands are the same before every call.
  induction h generalizing m state with
  | nil => rfl
  | @cons call call' rest rest' hcall hrest ih =>
    have hresolve := hcall.resolve m
    rw [run, run]
    generalize call.resolve m = resolved at hresolve
    generalize call'.resolve m = resolved' at hresolve
    cases hresolve with
    | none => rfl
    | some hsame =>
      simp only [Option.bind_eq_bind, Option.bind_some, b.perform_same hsame, hsame.after_eq, ih]

end Session

namespace Backend

/-- Keys that are equal are one key to the store: the same call about them sends the same, comes to
the same result and leaves the transport in the same state, and so does every session of such
calls. -/
theorem equal_keys_indistinguishable (b : Backend) {σ : Type} (t : Transport σ) :
    (∀ {call call' : Call Key}, call.Same Key.Same call' → ∀ state,
      (call.perform b).run t state = (call'.perform b).run t state) ∧
    ∀ {calls calls' : List (Call KeyRef)}, List.Forall₂ (Call.Same KeyRef.Same) calls calls' →
      ∀ m state, Session.run b t m state calls = Session.run b t m state calls' := by
  constructor
  · intro call call' h state
    rw [b.perform_same h]
  · intro calls calls' h m state
    exact Session.run_same b t h m state

/-- An empty identifier does not turn a create into an update. -/
theorem sample_empty_id_creates :
    ((Call.set (.unaddressed .checkpoint) .null []).perform sample).run .scripted [] =
      ((Call.set (.addressed .checkpoint "") .null []).perform sample).run .scripted [] ∧
    Session.run sample .scripted .empty []
        [.set (.given (.unaddressed .checkpoint)) .null [], .get .created] =
      Session.run sample .scripted .empty []
        [.set (.given (.addressed .checkpoint "")) .null [], .get .created] := by
  have hsame := Key.same_addressed_empty .checkpoint
  obtain ⟨hcall, hsession⟩ := sample.equal_keys_indistinguishable .scripted
  exact ⟨hcall (.set hsame .null []) [],
    hsession (.cons (.set (.given hsame) .null []) (.cons (.get .created) .nil)) .empty []⟩

end Backend

end RecordStore
