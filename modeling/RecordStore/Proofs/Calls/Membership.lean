import RecordStore.Proofs.Calls.Conclusions
import RecordStore.Proofs.Listings

/-! # Membership

A key is in the collection if the listing has an item with its identifier. The listing must be read
as a whole: one item without identifier, and nothing is known of any key. -/

namespace RecordStore.Backend

open Session (Call Answer)

variable {b : Backend} {delivery : Delivery} {items items' : List Json} {key : Key}

/-- The delivery lists the items: it is a reply of success with a document that holds them, and each
of them has an identifier. -/
def Lists (delivery : Delivery) (items : List Json) : Prop :=
  ∃ (reply : Reply) (d : Document), delivery = .ok reply ∧ reply.status < 300 ∧
    reply.json = .ok d ∧ d.Holds items ∧ ∀ item ∈ items, item.HasIdentifier

theorem keys_eq_ok_iff {keys : List Key} :
    documentOf .list delivery >>= b.decodeListing = .ok keys ↔
      ∃ (reply : Reply) (d : Document), delivery = .ok reply ∧ reply.status < 300 ∧
        reply.json = .ok d ∧ b.decodeListing d = .ok keys := by
  rw [Except.bind_eq_ok_iff]
  simp only [documentOf_eq_ok_iff]
  constructor
  · rintro ⟨d, ⟨reply, hreply, hstatus, hjson⟩, hkeys⟩
    exact ⟨reply, d, hreply, hstatus, hjson, hkeys⟩
  · rintro ⟨reply, d, hreply, hstatus, hjson, hkeys⟩
    exact ⟨d, ⟨reply, hreply, hstatus, hjson⟩, hkeys⟩

theorem Lists.unique (h : Lists delivery items) (h' : Lists delivery items') : items = items' := by
  obtain ⟨reply, d, hreply, -, hjson, hitems, -⟩ := h
  obtain ⟨reply', d', hreply', -, hjson', hitems', -⟩ := h'
  cases hreply.symm.trans hreply'
  cases hjson.symm.trans hjson'
  exact (Document.holds_iff.mp hitems).symm.trans (Document.holds_iff.mp hitems')

theorem Lists.of_keys {keys : List Key}
    (h : documentOf .list delivery >>= b.decodeListing = .ok keys) :
    ∃ items, Lists delivery items ∧ ∀ key, keys.contains key = true ↔ b.Contains items key := by
  obtain ⟨reply, d, hreply, hstatus, hjson, hkeys⟩ := keys_eq_ok_iff.mp h
  exact ⟨d.dataItems, ⟨reply, d, hreply, hstatus, hjson, Document.holds_iff.mpr rfl,
    exists_decodeListing_iff.mp ⟨keys, hkeys⟩⟩, fun _ => contains_keys_iff hkeys⟩

theorem Lists.exists_keys (h : Lists delivery items) :
    ∃ keys, documentOf .list delivery >>= b.decodeListing = .ok keys ∧
      ∀ key, keys.contains key = true ↔ b.Contains items key := by
  obtain ⟨reply, d, hreply, hstatus, hjson, hitems, hall⟩ := h
  rw [Document.holds_iff] at hitems
  subst hitems
  obtain ⟨keys, hkeys⟩ := exists_decodeListing_iff.mpr hall
  exact ⟨keys, keys_eq_ok_iff.mpr ⟨reply, d, hreply, hstatus, hjson, hkeys⟩,
    fun _ => contains_keys_iff hkeys⟩

/-- A key of the collection is one of its kind with an identifier. -/
theorem Contains.eq_addressed (h : b.Contains items key) :
    ∃ id, id ≠ "" ∧ key = .addressed b.kind id := by
  obtain ⟨hkind, id, hid, -⟩ := h
  obtain ⟨hne, kind, rfl⟩ := Key.id?_eq_some_iff.mp hid
  exact ⟨id, hne, hkind ▸ rfl⟩

/-- The items are looked at for their identifiers only. -/
theorem contains_append_cons_congr {before after : List Json} {item item' : Json}
    (h : ∀ id, item.Identifies id ↔ item'.Identifies id) :
    b.Contains (before ++ item :: after) key ↔ b.Contains (before ++ item' :: after) key := by
  simp only [Contains, List.mem_append, List.mem_cons, or_and_right, exists_or, exists_eq_left, h]

/-! ## Runs -/

variable {σ : Type}

def listing (b : Backend) (t : Transport σ) (state : σ) : Delivery :=
  (t.send (b.request .get b.collectionUrl none) state).1

variable {t : Transport σ} {state state' : σ}

theorem result_listKeys :
    ((Call.listKeys.perform b).run t state).result =
      (documentOf .list (b.listing t state) >>= b.decodeListing) >>= fun keys => .ok (.keys keys) :=
  rfl

theorem result_hasKey :
    (((Call.hasKey key).perform b).run t state).result =
      (documentOf .list (b.listing t state) >>= b.decodeListing) >>=
        fun keys => .ok (.flag (keys.contains key)) := by
  change ((_ >>= _) >>= _) >>= _ = _
  exact bind_assoc _ _ _

theorem result_listKeys_iff :
    (∃ keys, ((Call.listKeys.perform b).run t state).result = .ok (.keys keys)) ↔
      ∃ items, Lists (b.listing t state) items := by
  rw [result_listKeys]
  constructor
  · rintro ⟨keys, h⟩
    obtain ⟨keys', hkeys, -⟩ := Except.exists_of_bind_eq_ok h
    obtain ⟨items, hitems, -⟩ := Lists.of_keys hkeys
    exact ⟨items, hitems⟩
  · rintro ⟨items, hitems⟩
    obtain ⟨keys, hkeys, -⟩ := hitems.exists_keys (b := b)
    exact ⟨keys, by rw [hkeys]; rfl⟩

theorem result_hasKey_iff {found : Bool} :
    (((Call.hasKey key).perform b).run t state).result = .ok (.flag found) ↔
      ∃ items, Lists (b.listing t state) items ∧ (found = true ↔ b.Contains items key) := by
  rw [result_hasKey]
  constructor
  · intro h
    obtain ⟨keys, hkeys, hfound⟩ := Except.exists_of_bind_eq_ok h
    obtain ⟨items, hitems, hcontains⟩ := Lists.of_keys hkeys
    cases hfound
    exact ⟨items, hitems, hcontains key⟩
  · rintro ⟨items, hitems, hfound⟩
    obtain ⟨keys, hkeys, hcontains⟩ := hitems.exists_keys (b := b)
    have hflag : keys.contains key = found := by rw [Bool.eq_iff_iff, hcontains, hfound]
    rw [hkeys, ← hflag]
    rfl

theorem result_hasKey_iff_of_lists {found : Bool} (h : Lists (b.listing t state) items) :
    (((Call.hasKey key).perform b).run t state).result = .ok (.flag found) ↔
      (found = true ↔ b.Contains items key) := by
  rw [result_hasKey_iff]
  constructor
  · rintro ⟨items', h', hfound⟩
    rwa [h.unique h']
  · exact fun hfound => ⟨items, h, hfound⟩

/-- Membership is exact. There is one request, for the listing of the collection. A key is found
exactly if the listing is a reply of success with a document in which every item has an identifier,
and one of them has that of the key, which is of the kind of the backend; it is not found exactly if
the listing is such a reply, as it must be for its keys too, and no item has the identifier. So a key
without identifier is never found, nor one of another kind, and it does not matter whether an
identifier is listed as a number or as its text. -/
theorem membership_exact (b : Backend) (t : Transport σ) (state : σ) :
    (∀ key, (((Call.hasKey key).perform b).run t state).sent =
      [b.request .get b.collectionUrl none]) ∧
    (∀ key, (((Call.hasKey key).perform b).run t state).result = .ok (.flag true) ↔
      ∃ items, Lists (b.listing t state) items ∧ b.Contains items key) ∧
    (∀ key, (((Call.hasKey key).perform b).run t state).result = .ok (.flag false) ↔
      ∃ items, Lists (b.listing t state) items ∧ ¬b.Contains items key) ∧
    ((∃ keys, ((Call.listKeys.perform b).run t state).result = .ok (.keys keys)) ↔
      ∃ items, Lists (b.listing t state) items) ∧
    (∀ key, (((Call.hasKey key).perform b).run t state).result = .ok (.flag true) →
      ∃ id, id ≠ "" ∧ key = .addressed b.kind id) ∧
    ∀ {before after : List Json} {m : Json.Members} {n : Json.Number} {state'},
      Lists (b.listing t state) (before ++ .object (m.insert "id" (.number n)) :: after) →
      Lists (b.listing t state') (before ++ .object (m.insert "id" (.string n.text)) :: after) →
        ∀ key found, (((Call.hasKey key).perform b).run t state).result = .ok (.flag found) ↔
          (((Call.hasKey key).perform b).run t state').result = .ok (.flag found) := by
  have hfound : ∀ key, (((Call.hasKey key).perform b).run t state).result = .ok (.flag true) ↔
      ∃ items, Lists (b.listing t state) items ∧ b.Contains items key := by
    intro key
    simp only [result_hasKey_iff, true_iff]
  refine ⟨fun _ => rfl, hfound, ?_, result_listKeys_iff, ?_, ?_⟩
  · intro key
    simp only [result_hasKey_iff, Bool.false_eq_true, false_iff]
  · intro key h
    obtain ⟨items, -, hcontains⟩ := (hfound key).mp h
    exact hcontains.eq_addressed
  · intro before after m n state' hnumber htext key found
    rw [result_hasKey_iff_of_lists hnumber, result_hasKey_iff_of_lists htext,
      contains_append_cons_congr fun id => Json.identifies_number_iff n m]

end RecordStore.Backend
