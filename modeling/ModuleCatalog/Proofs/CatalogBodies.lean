import ModuleCatalog.Catalog.Reading
import ModuleCatalog.Proofs.EncodedValues
import ModuleCatalog.Proofs.AcceptedTexts

/-!
What a catalog body is read as. The form of its elements decides whether it is read, together with
one thing inside them: a number beyond every double, half of a surrogate pair, or nesting that is
too deep leaves the whole body without a value. Otherwise each object gives the entry at its place,
and each key of an object reaches one field of that entry and no other.
-/
namespace ModuleCatalog

namespace Json

def IsObject (v : Json) : Prop :=
  ∃ members, v = .object members

theorem forall₂_of_mapM {α β : Type} {f : α → Option β} {xs : List α} {ys : List β}
    (h : xs.mapM f = some ys) : List.Forall₂ (fun x y => f x = some y) xs ys := by
  induction xs generalizing ys with
  | nil =>
    cases h
    exact .nil
  | cons x xs ih =>
    cases hx : f x with
    | none =>
      rw [Reader.mapM_cons_of_none hx] at h
      cases h
    | some y =>
      rw [Reader.mapM_cons_of_some hx, Option.map_eq_some_iff] at h
      obtain ⟨ys, hys, rfl⟩ := h
      exact .cons hx (ih hys)

namespace Tree

variable {depth : Nat} {t : Tree} {v : Json}

theorem value?_array_eq_some_iff {items : List Tree} :
    (array items).value? depth = some v ↔
      ∃ d vs, depth = d + 1 ∧ items.mapM (value? d) = some vs ∧ v = .array vs := by
  cases depth <;> simp [value?, eq_comm]

theorem value?_object_eq_some {members : List (List Piece × Tree)}
    (h : (object members).value? depth = some v) : v.IsObject := by
  cases depth with
  | zero => cases h
  | succ depth =>
    rw [value?, Option.map_eq_some_iff] at h
    obtain ⟨vs, -, rfl⟩ := h
    exact ⟨vs, rfl⟩

/-- A tree that is neither an array nor an object has a value that is neither. -/
theorem value?_scalar (h : t.value? depth = some v) (hobject : ¬ t.IsObject)
    (harray : ∀ items, t ≠ .array items) : ¬ v.IsObject ∧ ∀ vs, v ≠ .array vs := by
  cases t with
  | null | bool b =>
    rw [value?, Option.some.injEq] at h
    subst h
    simp [Json.IsObject]
  | number n | string pieces =>
    rw [value?, Option.map_eq_some_iff] at h
    obtain ⟨x, -, rfl⟩ := h
    simp [Json.IsObject]
  | array items => exact absurd rfl (harray items)
  | object members => exact absurd ⟨members, rfl⟩ hobject

theorem isObject_iff_of_value? (h : t.value? depth = some v) : v.IsObject ↔ t.IsObject := by
  by_cases harray : ∃ items, t = .array items
  · obtain ⟨items, rfl⟩ := harray
    obtain ⟨-, -, -, -, rfl⟩ := value?_array_eq_some_iff.mp h
    exact ⟨nofun, nofun⟩
  · refine ⟨fun hv => ?_, ?_⟩
    · by_contra ht
      exact (value?_scalar h ht (not_exists.mp harray)).1 hv
    · rintro ⟨members, rfl⟩
      exact value?_object_eq_some h

theorem forall_isObject_iff {items : List Tree} {vs : List Json}
    (h : List.Forall₂ (fun t v => value? depth t = some v) items vs) :
    (∀ v ∈ vs, v.IsObject) ↔ ∀ item ∈ items, item.IsObject := by
  induction h with
  | nil => simp
  | cons hv hvs ih => rw [List.forall_mem_cons, List.forall_mem_cons, isObject_iff_of_value? hv, ih]

/-- The value of a text is an array of objects exactly if the text has that form. -/
theorem objects_iff_of_value? (h : t.value? depth = some v) :
    (∃ vs, v = .array vs ∧ ∀ w ∈ vs, w.IsObject) ↔
      ∃ items, t = .array items ∧ ∀ item ∈ items, item.IsObject := by
  constructor
  · rintro ⟨vs, rfl, hvs⟩
    by_cases ht : ∃ items, t = .array items
    · obtain ⟨items, rfl⟩ := ht
      obtain ⟨d, vs', -, hitems, hvs'⟩ := value?_array_eq_some_iff.mp h
      cases hvs'
      exact ⟨items, rfl, (forall_isObject_iff (forall₂_of_mapM hitems)).mp hvs⟩
    · have hobject : ¬ t.IsObject := fun ht => by
        obtain ⟨members, hmembers⟩ := (isObject_iff_of_value? h).mpr ht
        cases hmembers
      exact absurd rfl ((value?_scalar h hobject (not_exists.mp ht)).2 vs)
  · rintro ⟨items, rfl, hitems⟩
    obtain ⟨d, vs, -, hvs, rfl⟩ := value?_array_eq_some_iff.mp h
    exact ⟨vs, rfl, (forall_isObject_iff (forall₂_of_mapM hvs)).mpr hitems⟩

end Tree

/-- The place of the first element that is no object. -/
structure FirstStray (items : List Json) (n : Nat) : Prop where
  stray : ∃ v, items[n]? = some v ∧ ¬ v.IsObject
  before : ∀ (m : Nat) (v : Json), m < n → items[m]? = some v → v.IsObject

theorem firstStray_cons {v : Json} {items : List Json} {n : Nat} :
    FirstStray (v :: items) n ↔
      ¬ v.IsObject ∧ n = 0 ∨ v.IsObject ∧ ∃ m, FirstStray items m ∧ n = m + 1 := by
  constructor
  · rintro ⟨⟨w, hw, hstray⟩, hbefore⟩
    cases n with
    | zero =>
      obtain rfl : v = w := by simpa using hw
      exact .inl ⟨hstray, rfl⟩
    | succ n =>
      refine .inr ⟨hbefore 0 v n.succ_pos rfl, n, ⟨⟨w, by simpa using hw, hstray⟩, ?_⟩, rfl⟩
      exact fun m u hm hu => hbefore (m + 1) u (Nat.succ_lt_succ hm) (by simpa using hu)
  · rintro (⟨hv, rfl⟩ | ⟨hv, m, ⟨⟨w, hw, hstray⟩, hbefore⟩, rfl⟩)
    · exact ⟨⟨v, rfl, hv⟩, fun m u hm => absurd hm m.not_lt_zero⟩
    · refine ⟨⟨w, by simpa using hw, hstray⟩, fun k u hk hu => ?_⟩
      cases k with
      | zero =>
        obtain rfl : v = u := by simpa using hu
        exact hv
      | succ k => exact hbefore k u (Nat.lt_of_succ_lt_succ hk) (by simpa using hu)

/-- Two objects have the same under every key but one, which each of them may have or not. -/
def AgreeBut (key : String) (members members' : List (String × Json)) : Prop :=
  ∀ k, k ≠ key → member? members' k = member? members k

theorem member?_filter_ne {key k : String} (hk : k ≠ key) (members : List (String × Json)) :
    member? (members.filter fun m => m.1 ≠ key) k = member? members k := by
  induction members with
  | nil => rfl
  | cons m members ih =>
    by_cases hm : m.1 = key
    · have hmk : m.1 ≠ k := fun h => hk (h ▸ hm)
      rw [List.filter_cons_of_neg (by simpa using hm), member?_cons, if_neg hmk, Option.or_none, ih]
    · rw [List.filter_cons_of_pos (by simpa using hm), member?_cons, member?_cons, ih]

/-- Members under a key may be added, replaced and removed. -/
theorem agreeBut_of_filter_eq {key : String} {members members' : List (String × Json)}
    (h : members'.filter (fun m => m.1 ≠ key) = members.filter fun m => m.1 ≠ key) :
    AgreeBut key members members' := by
  intro k hk
  rw [← member?_filter_ne hk members', h, member?_filter_ne hk]

end Json

namespace Entry

/-- An entry as it is listed, with its release not looked up yet. -/
structure Unresolved (kind : Kind) (e : Entry) : Prop where
  kind_eq : e.kind = kind
  version_empty : e.latestVersion = ""
  url_empty : e.downloadUrl = ""
  loading : e.isLoading = true

/-- Two entries agree in every field but the one that is read from a key. -/
structure AgreeBut (key : String) (e e' : Entry) : Prop where
  kind : e'.kind = e.kind
  id : key ≠ "id" → e'.id = e.id
  name : key ≠ "name" → e'.name = e.name
  description : key ≠ "description" → e'.description = e.description
  author : key ≠ "author" → e'.author = e.author
  repoUrl : key ≠ "repoUrl" → e'.repoUrl = e.repoUrl
  bannerLink : key ≠ "bannerUrl" → e'.bannerLink = e.bannerLink
  license : key ≠ "license" → e'.license = e.license
  visibility : key ≠ "visibility" → e'.visibility = e.visibility
  latestVersion : e'.latestVersion = e.latestVersion
  downloadUrl : e'.downloadUrl = e.downloadUrl
  isLoading : e'.isLoading = e.isLoading

/-- A key reaches no field but its own. -/
theorem agreeBut_ofMembers (kind : Kind) {key : String} {members members' : List (String × Json)}
    (h : Json.AgreeBut key members members') :
    (ofMembers kind members).AgreeBut key (ofMembers kind members') where
  kind := rfl
  id hkey := congrArg textOf (h "id" hkey.symm)
  name hkey := congrArg textOf (h "name" hkey.symm)
  description hkey := congrArg textOf (h "description" hkey.symm)
  author hkey := congrArg textOf (h "author" hkey.symm)
  repoUrl hkey := congrArg textOf (h "repoUrl" hkey.symm)
  bannerLink hkey := congrArg textOf (h "bannerUrl" hkey.symm)
  license hkey := congrArg textOf (h "license" hkey.symm)
  visibility hkey := congrArg visibilityOf (h "visibility" hkey.symm)
  latestVersion := rfl
  downloadUrl := rfl
  isLoading := rfl

theorem ofJson?_eq_some_iff {kind : Kind} {v : Json} {e : Entry} :
    ofJson? kind v = some e ↔ ∃ members, v = .object members ∧ e = ofMembers kind members := by
  constructor
  · intro h
    cases v with
    | object members => exact ⟨members, rfl, (Option.some.inj h).symm⟩
    | null | bool | number | string | array => cases h
  · rintro ⟨members, rfl, rfl⟩
    rfl

theorem ofJson?_eq_none_iff {kind : Kind} {v : Json} : ofJson? kind v = none ↔ ¬ v.IsObject := by
  rw [Option.eq_none_iff_forall_ne_some, Json.IsObject]
  constructor
  · rintro h ⟨members, hv⟩
    exact h _ (ofJson?_eq_some_iff.mpr ⟨members, hv, rfl⟩)
  · intro h e he
    obtain ⟨members, hv, -⟩ := ofJson?_eq_some_iff.mp he
    exact h ⟨members, hv⟩

theorem isObject_of_ofJson? {kind : Kind} {v : Json} {e : Entry} (h : ofJson? kind v = some e) :
    v.IsObject := by
  obtain ⟨members, hv, -⟩ := ofJson?_eq_some_iff.mp h
  exact ⟨members, hv⟩

theorem unresolved_of_ofJson? {kind : Kind} {v : Json} {e : Entry} (h : ofJson? kind v = some e) :
    e.Unresolved kind := by
  obtain ⟨members, -, rfl⟩ := ofJson?_eq_some_iff.mp h
  exact ⟨rfl, rfl, rfl, rfl⟩

end Entry

namespace Catalog

section Elements

variable {kind : Kind} {index : Nat} {v : Json} {items : List Json}

theorem entriesFrom_cons_stray (h : ¬ v.IsObject) :
    entriesFrom kind index (v :: items) = .error (.notObject index) := by
  rw [entriesFrom, Entry.ofJson?_eq_none_iff.mpr h]

theorem entriesFrom_cons_object {e : Entry} (h : Entry.ofJson? kind v = some e) :
    entriesFrom kind index (v :: items) = (entriesFrom kind (index + 1) items).map (e :: ·) := by
  rw [entriesFrom, h]

theorem entriesFrom_eq_ok_iff {list : List Entry} :
    entriesFrom kind index items = .ok list ↔ items.map (Entry.ofJson? kind) = list.map some := by
  induction items generalizing index list with
  | nil => cases list <;> simp [entriesFrom]
  | cons v items ih =>
    cases hv : Entry.ofJson? kind v with
    | none =>
      rw [entriesFrom_cons_stray (Entry.ofJson?_eq_none_iff.mp hv), List.map_cons, hv]
      cases list <;> simp
    | some e =>
      rw [entriesFrom_cons_object hv, List.map_cons, hv]
      cases list with
      | nil => cases entriesFrom kind (index + 1) items <;> simp [Except.map]
      | cons e' list =>
        rw [List.map_cons, List.cons.injEq, Option.some.injEq, ← @ih (index + 1) list]
        cases entriesFrom kind (index + 1) items <;> simp [Except.map]

theorem entriesFrom_eq_error_iff {fault : CatalogFault} :
    entriesFrom kind index items = .error fault ↔
      ∃ n, Json.FirstStray items n ∧ fault = .notObject (index + n) := by
  induction items generalizing index with
  | nil =>
    constructor
    · intro h
      cases h
    · rintro ⟨n, ⟨⟨v, hv, -⟩, -⟩, -⟩
      cases hv
  | cons v items ih =>
    simp only [Json.firstStray_cons]
    cases hv : Entry.ofJson? kind v with
    | none =>
      have hstray := Entry.ofJson?_eq_none_iff.mp hv
      rw [entriesFrom_cons_stray hstray]
      simp [hstray, eq_comm]
    | some e =>
      have hobject := Entry.isObject_of_ofJson? hv
      have hmap : (entriesFrom kind (index + 1) items).map (e :: ·) = .error fault ↔
          entriesFrom kind (index + 1) items = .error fault := by
        cases entriesFrom kind (index + 1) items <;> simp [Except.map]
      rw [entriesFrom_cons_object hv, hmap, ih]
      constructor
      · rintro ⟨n, hn, rfl⟩
        exact ⟨n + 1, .inr ⟨hobject, n, hn, rfl⟩, by rw [Nat.add_right_comm]; rfl⟩
      · rintro ⟨n, ⟨hstray, -⟩ | ⟨-, m, hm, rfl⟩, rfl⟩
        · exact absurd hobject hstray
        · exact ⟨m, hm, by rw [Nat.add_right_comm]; rfl⟩

/-- The elements are objects exactly if each of them gives an entry. -/
theorem exists_map_ofJson?_iff (kind : Kind) (items : List Json) :
    (∃ list : List Entry, items.map (Entry.ofJson? kind) = list.map some) ↔
      ∀ v ∈ items, v.IsObject := by
  constructor
  · rintro ⟨list, hlist⟩ v hv
    have hmem : Entry.ofJson? kind v ∈ list.map some := hlist ▸ List.mem_map_of_mem hv
    obtain ⟨e, -, he⟩ := List.mem_map.mp hmem
    exact Entry.isObject_of_ofJson? he.symm
  · intro h
    induction items with
    | nil => exact ⟨[], rfl⟩
    | cons v items ih =>
      obtain ⟨⟨members, rfl⟩, hrest⟩ := List.forall_mem_cons.mp h
      obtain ⟨list, hlist⟩ := ih hrest
      exact ⟨Entry.ofMembers kind members :: list, by rw [List.map_cons, hlist]; rfl⟩

end Elements

section Bodies

variable {kind : Kind} {url body : String}

theorem entries_eq_ok_iff {list : List Entry} :
    entries kind body = .ok list ↔
      ∃ items, Json.parse? body = some (.array items) ∧
        items.map (Entry.ofJson? kind) = list.map some := by
  rw [entries]
  split
  · next h => simp [h]
  · next items h => simp [h, entriesFrom_eq_ok_iff]
  · next v hv h =>
    simp only [reduceCtorEq, false_iff]
    rintro ⟨items, hitems, -⟩
    exact hv items (Option.some.inj (h.symm.trans hitems))

theorem entries_eq_error_iff {fault : CatalogFault} :
    entries kind body = .error fault ↔
      Json.parse? body = none ∧ fault = .notJson ∨
        ∃ v, Json.parse? body = some v ∧ ((∀ items, v ≠ .array items) ∧ fault = .notArray ∨
          ∃ items n, v = .array items ∧ Json.FirstStray items n ∧ fault = .notObject n) := by
  rw [entries]
  split
  · next h => simp [h, eq_comm]
  · next items h => simp [h, entriesFrom_eq_error_iff]
  · next v hv h =>
    have hnone : ∀ items, v ≠ .array items := fun items hitems => hv items hitems
    simp [h, hnone, eq_comm]

theorem parse_eq_ok_iff {list : List Entry} :
    parse kind url body = .ok list ↔ entries kind body = .ok list := by
  rw [parse]
  cases entries kind body <;> simp

theorem parse_eq_error_iff {failure : Failure} :
    parse kind url body = .error failure ↔
      ∃ fault, entries kind body = .error fault ∧ failure = .notACatalog url fault := by
  rw [parse]
  cases entries kind body <;> simp [eq_comm]

/-- A body is read exactly if it is a text of the grammar that has a value, and an array of objects.
-/
theorem exists_parse_eq_ok_iff {t : Json.Tree} (h : Json.Derives body.toList t) :
    (∃ list, parse kind url body = .ok list) ↔
      (∃ items, t = .array items ∧ ∀ item ∈ items, item.IsObject) ∧
        t.value? Json.Reader.maxDepth ≠ none := by
  simp only [parse_eq_ok_iff, entries_eq_ok_iff, Json.parse?_of_derives h]
  rw [exists_comm]
  simp only [exists_and_left, exists_map_ofJson?_iff]
  cases hv : t.value? Json.Reader.maxDepth with
  | none => simp
  | some v =>
    rw [← Json.Tree.objects_iff_of_value? hv]
    simp

/-- A body that is no text of the grammar is no catalog. -/
theorem parse_of_not_derives (h : ∀ t, ¬ Json.Derives body.toList t) :
    parse kind url body = .error (.notACatalog url .notJson) := by
  have hnone : Json.parse? body = none := by
    rw [Option.eq_none_iff_forall_ne_some]
    intro v hv
    obtain ⟨t, ht, -⟩ := Json.parse?_eq_some_iff.mp hv
    exact h t ht
  exact parse_eq_error_iff.mpr ⟨_, entries_eq_error_iff.mpr (.inl ⟨hnone, rfl⟩), rfl⟩

end Bodies

/-- A body that is well-formed JSON is read exactly if it is an array of objects and has a value. It
then has one entry for each object, in their order, and another object in the place of one of them,
with the same under every key but one, changes at most that entry, and of it the field that is read
from the key. Any other body fails as no catalog at its address, and if it has a value that is an
array, the first element that is no object is named. -/
theorem catalog_bodies_read (kind : Kind) (url body : String) (t : Json.Tree)
    (h : Json.Derives body.toList t) :
    ((∃ list, parse kind url body = .ok list) ↔
      (∃ items, t = .array items ∧ ∀ item ∈ items, item.IsObject) ∧
        t.value? Json.Reader.maxDepth ≠ none) ∧
    (∀ list, parse kind url body = .ok list →
      ∃ items, t.value? Json.Reader.maxDepth = some (.array items) ∧
        items.map (Entry.ofJson? kind) = list.map some ∧ (∀ e ∈ list, e.Unresolved kind) ∧
        ∀ (i : Nat) (members members' : List (String × Json)) (key body' : String) (t' : Json.Tree),
          items[i]? = some (.object members) → Json.AgreeBut key members members' →
          Json.Derives body'.toList t' →
          t'.value? Json.Reader.maxDepth = some (.array (items.set i (.object members'))) →
          ∃ e e', list[i]? = some e ∧ e.AgreeBut key e' ∧
            parse kind url body' = .ok (list.set i e')) ∧
    ∀ failure, parse kind url body = .error failure ↔ ∃ fault, failure = .notACatalog url fault ∧
      (t.value? Json.Reader.maxDepth = none ∧ fault = .notJson ∨
        ∃ v, t.value? Json.Reader.maxDepth = some v ∧
          ((∀ items, v ≠ .array items) ∧ fault = .notArray ∨
            ∃ items n, v = .array items ∧ Json.FirstStray items n ∧ fault = .notObject n)) := by
  have hvalue := Json.parse?_of_derives h
  refine ⟨exists_parse_eq_ok_iff h, fun list hlist => ?_, fun failure => ?_⟩
  · obtain ⟨items, hitems, hentries⟩ := entries_eq_ok_iff.mp (parse_eq_ok_iff.mp hlist)
    refine ⟨items, hvalue.symm.trans hitems, hentries, fun e he => ?_, ?_⟩
    · have hmem : some e ∈ items.map (Entry.ofJson? kind) := hentries ▸ List.mem_map_of_mem he
      obtain ⟨item, -, hitem⟩ := List.mem_map.mp hmem
      exact Entry.unresolved_of_ofJson? hitem
    · intro i members members' key body' t' hi hkey hbody' hvalue'
      have hentry : list[i]? = some (Entry.ofMembers kind members) := by
        have hplace := congrArg (·[i]?) hentries
        rw [List.getElem?_map, List.getElem?_map, hi] at hplace
        obtain ⟨e, he, hsome⟩ := Option.map_eq_some_iff.mp hplace.symm
        exact he.trans hsome
      refine ⟨_, Entry.ofMembers kind members', hentry, Entry.agreeBut_ofMembers kind hkey, ?_⟩
      rw [parse_eq_ok_iff, entries_eq_ok_iff]
      exact ⟨_, (Json.parse?_of_derives hbody').trans hvalue', by
        rw [List.map_set, List.map_set, hentries]; rfl⟩
  · rw [parse_eq_error_iff]
    simp only [entries_eq_error_iff, hvalue]
    exact exists_congr fun fault => and_comm

/-- A member whose value is written as an array in an array. -/
def nestedName : Json.Member where
  before := []
  key := [.plain 'n' (by decide), .plain 'a' (by decide), .plain 'm' (by decide),
    .plain 'e' (by decide)]
  after := []
  text := ['[', '[', ']', ']']
  tree := .array [.array []]
  isSpace := ⟨Json.isSpace_nil, Json.isSpace_nil⟩

def trueId : Json.Member where
  before := []
  key := [.plain 'i' (by decide), .plain 'd' (by decide)]
  after := [' ']
  text := [' ', 't', 'r', 'u', 'e']
  tree := .bool true
  isSpace := ⟨Json.isSpace_nil, by decide⟩

theorem derives_object_nestedName :
    Json.Derives ('\x7b' :: nestedName.spelling ++ ['\x7d'])
      (.object [(nestedName.key, nestedName.tree)]) := by
  refine .object nestedName [] fun m hm => ?_
  obtain rfl := List.mem_singleton.mp hm
  refine .array (['[', ']'], .array []) [] fun item hitem => ?_
  obtain rfl := List.mem_singleton.mp hitem
  exact .emptyArray Json.isSpace_nil

/-- The first object has a mistyped name, and the identifier of the second one is removed. -/
theorem catalog_bodies_read_mistyped :
    let body := "[\x7b\"name\":[[]]\x7d,\x7b\"id\" : true\x7d]"
    let body' := "[\x7b\"name\":[[]]\x7d,\x7b\x7d]"
    let item : Json.Tree := .object [(nestedName.key, nestedName.tree)]
    let t : Json.Tree := .array [item, .object [(trueId.key, trueId.tree)]]
    let t' : Json.Tree := .array [item, .object []]
    Json.Derives body.toList t ∧ Json.Derives body'.toList t' ∧
      ∃ list, parse .metaModules "u" body = .ok list ∧ (∀ e ∈ list, e.Unresolved .metaModules) ∧
        ∃ e e', list[1]? = some e ∧ e.AgreeBut "id" e' ∧
          parse .metaModules "u" body' = .ok (list.set 1 e') := by
  intro body body' item t t'
  have hbody : Json.Derives body.toList t := by
    have htext : body.toList = '[' :: Json.commaJoined ('\x7b' :: nestedName.spelling ++ ['\x7d'])
        ['\x7b' :: trueId.spelling ++ ['\x7d']] ++ [']'] := by decide
    rw [htext]
    refine .array (_, item) [(_, .object [(trueId.key, trueId.tree)])] ?_
    simp only [List.forall_mem_cons, List.not_mem_nil, false_implies, implies_true, and_true]
    refine ⟨derives_object_nestedName, .object trueId [] fun m hm => ?_⟩
    obtain rfl := List.mem_singleton.mp hm
    exact .padded (show Json.IsSpace [' '] by decide) Json.isSpace_nil .yes
  have hbody' : Json.Derives body'.toList t' := by
    have htext : body'.toList = '[' :: Json.commaJoined ('\x7b' :: nestedName.spelling ++ ['\x7d'])
        [['\x7b', '\x7d']] ++ [']'] := by decide
    rw [htext]
    refine .array (_, item) [(_, .object [])] ?_
    simp only [List.forall_mem_cons, List.not_mem_nil, false_implies, implies_true, and_true]
    exact ⟨derives_object_nestedName, .emptyObject Json.isSpace_nil⟩
  have hvalue : t.value? Json.Reader.maxDepth = some (.array
      [.object [("name", .array [.array []])], .object [("id", .bool true)]]) := by
    simp [t, item, nestedName, trueId, Json.Reader.maxDepth, Json.Tree.value?, Json.decode?]
  have hvalue' : t'.value? Json.Reader.maxDepth = some (.array
      [.object [("name", .array [.array []])], .object []]) := by
    simp [t', item, nestedName, Json.Reader.maxDepth, Json.Tree.value?, Json.decode?]
  obtain ⟨hread, hlisted, -⟩ := catalog_bodies_read .metaModules "u" body t hbody
  obtain ⟨list, hlist⟩ := hread.mpr ⟨⟨_, rfl, by simp [item, Json.Tree.IsObject]⟩, by simp [hvalue]⟩
  obtain ⟨items, hitems, -, hunresolved, hedit⟩ := hlisted list hlist
  cases hvalue.symm.trans hitems
  exact ⟨hbody, hbody', list, hlist, hunresolved, hedit 1 _ [] "id" body' t' rfl
    (Json.agreeBut_of_filter_eq rfl) hbody' hvalue'⟩

/-- A number beyond every double. -/
def hugeNumber : Json.Numeral where
  negative := false
  whole := ['1']
  fraction := none
  exponent := some ⟨'e', [], ['9', '9', '9'], .inl rfl, .inl rfl, by decide⟩
  isWhole := by decide
  noLeadingZero := by decide
  isFraction := nofun

def hugeStars : Json.Member where
  before := []
  key := [.plain 's' (by decide), .plain 't' (by decide), .plain 'a' (by decide),
    .plain 'r' (by decide), .plain 's' (by decide)]
  after := []
  text := hugeNumber.text
  tree := .number hugeNumber
  isSpace := ⟨Json.isSpace_nil, Json.isSpace_nil⟩

/-- A body of one object is refused for a number under a key that no field is read from. -/
theorem objects_refused_by_number :
    let url := "https://a.test/m.json"
    let body := "[\x7b\"stars\":1e999\x7d]"
    (∃ items, Json.Derives body.toList (.array items) ∧ ∀ item ∈ items, item.IsObject) ∧
      parse .modules url body = .error (.notACatalog url .notJson) := by
  intro url body
  have hbody : Json.Derives body.toList (.array [.object [(hugeStars.key, hugeStars.tree)]]) := by
    have htext : body.toList =
        '[' :: Json.commaJoined ('\x7b' :: hugeStars.spelling ++ ['\x7d']) [] ++ [']'] := by decide
    rw [htext]
    refine .array (_, .object [(hugeStars.key, hugeStars.tree)]) [] fun item hitem => ?_
    obtain rfl := List.mem_singleton.mp hitem
    refine .object hugeStars [] fun m hm => ?_
    obtain rfl := List.mem_singleton.mp hm
    exact .number hugeNumber
  have hvalue : Json.Tree.value? Json.Reader.maxDepth
      (.array [.object [(hugeStars.key, hugeStars.tree)]]) = none := by
    have hnumber : hugeStars.tree.value? 125 = none := by decide
    simp [Json.Reader.maxDepth, Json.Tree.value?, hnumber]
  refine ⟨⟨_, hbody, by simp [Json.Tree.IsObject]⟩, ?_⟩
  rw [parse_eq_error_iff]
  exact ⟨_, entries_eq_error_iff.mpr (.inl ⟨(Json.parse?_of_derives hbody).trans hvalue, rfl⟩), rfl⟩

end Catalog

end ModuleCatalog
