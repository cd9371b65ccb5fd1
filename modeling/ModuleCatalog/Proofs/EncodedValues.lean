import ModuleCatalog.Sources.Encoding

/-!
Encoded values read back. An object is read by what stands under its own keys, so members under
other keys change nothing, and where no key stands twice, each has the value that was written under
it.
-/
namespace ModuleCatalog

namespace Json

variable {own names : List String} {members wider : List (String × Json)} {key : String}

/-- Says that a list of members is another one with further members put in at any places, each under
a key that is not among the given ones. -/
inductive Widened (own : List String) : List (String × Json) → List (String × Json) → Prop
  | nil : Widened own [] []
  | kept (m : String × Json) {members wider : List (String × Json)} :
    Widened own members wider → Widened own (m :: members) (m :: wider)
  | added (m : String × Json) {members wider : List (String × Json)} :
    m.1 ∉ own → Widened own members wider → Widened own members (m :: wider)

theorem Widened.refl (own : List String) (members : List (String × Json)) :
    Widened own members members := by
  induction members with
  | nil => exact .nil
  | cons m members ih => exact .kept m ih

/-- A member counts unless its key stands once more after it. -/
theorem member?_cons (m : String × Json) (members : List (String × Json)) (key : String) :
    member? (m :: members) key =
      (member? members key).or (if m.1 = key then some m.2 else none) := by
  rw [member?, List.reverse_cons, List.find?_append, Option.map_or]
  by_cases h : m.1 = key <;> simp [member?, h]

theorem member?_eq_none (h : key ∉ members.map Prod.fst) : member? members key = none := by
  induction members with
  | nil => rfl
  | cons m members ih =>
    simp only [List.map_cons, List.mem_cons, not_or] at h
    rw [member?_cons, ih h.2, if_neg (Ne.symm h.1), Option.or_none]

theorem member?_eq_some {m : String × Json} (hkeys : (members.map Prod.fst).Nodup)
    (hm : m ∈ members) : member? members m.1 = some m.2 := by
  induction members with
  | nil => cases hm
  | cons first members ih =>
    obtain ⟨hfirst, hkeys⟩ := List.nodup_cons.mp hkeys
    rw [member?_cons]
    obtain rfl | hm := List.mem_cons.mp hm
    · rw [member?_eq_none hfirst, if_pos rfl, Option.none_or]
    · rw [ih hkeys hm, Option.some_or]

theorem member?_widened (h : Widened own members wider) (hkey : key ∈ own) :
    member? wider key = member? members key := by
  induction h with
  | nil => rfl
  | kept m _ ih => rw [member?_cons, member?_cons, ih]
  | added m hm _ ih =>
    have hne : m.1 ≠ key := fun heq => hm (heq ▸ hkey)
    rw [member?_cons, if_neg hne, Option.or_none, ih]

/-- From an object in which no key stands twice, any of its members are read by their keys. -/
theorem fields?_object (read : List (String × Json)) (hkeys : (members.map Prod.fst).Nodup)
    (hread : read ⊆ members) :
    (Json.object members).fields? (read.map Prod.fst) = some (read.map Prod.snd) := by
  simp only [fields?]
  induction read with
  | nil => rfl
  | cons m read ih =>
    obtain ⟨hm, hrest⟩ := List.cons_subset.mp hread
    rw [List.map_cons, List.mapM_cons, member?_eq_some hkeys hm, ih hrest]
    rfl

theorem fields?_widened (h : Widened own members wider) (hnames : names ⊆ own) :
    (Json.object wider).fields? names = (Json.object members).fields? names := by
  simp only [fields?]
  induction names with
  | nil => rfl
  | cons name names ih =>
    obtain ⟨hname, hrest⟩ := List.cons_subset.mp hnames
    rw [List.mapM_cons, List.mapM_cons, member?_widened h hname, ih hrest]

theorem int64?_ofInt {n : Int} (hmin : int64Min ≤ n) (hmax : n ≤ int64Max) :
    (ofInt n).int64? = some n := by
  simp [ofInt, int64?, hmin, hmax]

end Json

section Values

variable {members wider : List (String × Json)}

theorem Kind.ofJson?_toJson (k : Kind) : ofJson? k.toJson = some k := by
  cases k <;> rfl

theorem Release.ofJson?_toJson (r : Release) : ofJson? r.toJson = some r := by
  have hfields : r.toJson.fields? ["version", "zipUrl"] =
      some [.string r.version, .string r.zipUrl] :=
    Json.fields?_object _ (by simp) (List.Subset.refl _)
  rw [ofJson?, hfields]
  rfl

theorem Release.ofJson?_widened (h : Json.Widened ["version", "zipUrl"] members wider) :
    ofJson? (.object wider) = ofJson? (.object members) := by
  rw [ofJson?, ofJson?, Json.fields?_widened h (List.Subset.refl _)]

theorem Identity.ofJson?_object {form : String} (hkeys : (members.map Prod.fst).Nodup)
    (hform : ("type", .string form) ∈ members) :
    ofJson? (.object members) = ofFields? form (.object members) := by
  simp only [ofJson?, Json.member?_eq_some hkeys hform]

theorem Identity.ofJson?_toJson (i : Identity) : ofJson? i.toJson = some i := by
  cases i with
  | byId id =>
    have hfields : (byId id).toJson.fields? ["id"] = some [.string id] :=
      Json.fields?_object [("id", .string id)] (by simp) (by simp)
    rw [toJson] at hfields ⊢
    rw [ofJson?_object (by simp) List.mem_cons_self, ofFields?, if_pos rfl, hfields]
    rfl
  | byNameAndRepo name repoUrl =>
    have hfields : (byNameAndRepo name repoUrl).toJson.fields? ["name", "repo_url"] =
        some [.string name, .string repoUrl] :=
      Json.fields?_object [("name", .string name), ("repo_url", .string repoUrl)] (by simp) (by simp)
    rw [toJson] at hfields ⊢
    rw [ofJson?_object (by simp) List.mem_cons_self, ofFields?, if_neg (by decide), if_pos rfl,
      hfields]
    rfl

theorem Identity.ofJson?_widened
    (h : Json.Widened ["type", "id", "name", "repo_url"] members wider) :
    ofJson? (.object wider) = ofJson? (.object members) := by
  have hform : Json.member? wider "type" = Json.member? members "type" :=
    Json.member?_widened h (by decide)
  have hfields (form : String) :
      ofFields? form (.object wider) = ofFields? form (.object members) := by
    rw [ofFields?, ofFields?, Json.fields?_widened h (by decide),
      Json.fields?_widened h (by decide)]
  simp only [ofJson?, hform, hfields]

theorem Entry.ofEncoded?_toJson (e : Entry) (hmin : Json.int64Min ≤ e.visibility)
    (hmax : e.visibility ≤ Json.int64Max) : ofEncoded? e.toJson = some e := by
  have hfields : e.toJson.fields? fieldNames = some [e.kind.toJson, .string e.id, .string e.name,
      .string e.description, .string e.author, .string e.repoUrl, .string e.bannerLink,
      .string e.license, .ofInt e.visibility, .string e.latestVersion, .string e.downloadUrl,
      .bool e.isLoading] := Json.fields?_object _ (by simp) (List.Subset.refl _)
  rw [ofEncoded?, hfields]
  simp only [Option.bind_eq_bind, Option.bind_some, Kind.ofJson?_toJson, Json.string?, Json.bool?,
    Json.int64?_ofInt hmin hmax]

theorem Entry.ofEncoded?_widened (h : Json.Widened fieldNames members wider) :
    ofEncoded? (.object wider) = ofEncoded? (.object members) := by
  rw [ofEncoded?, ofEncoded?, Json.fields?_widened h (List.Subset.refl _)]

theorem Sources.urls?_array (urls : List String) : urls? (.array (urls.map .string)) = some urls := by
  simp only [urls?]
  induction urls with
  | nil => rfl
  | cons url urls ih =>
    rw [List.map_cons, List.mapM_cons, ih]
    rfl

theorem Sources.ofJson?_object {urls : List String} {includeNonFree : Bool}
    (hkeys : (members.map Prod.fst).Nodup)
    (hurls : ("urls", .array (urls.map .string)) ∈ members)
    (hnonFree : ("include_non_free", .bool includeNonFree) ∈ members) :
    ofJson? (.object members) = some ⟨urls, includeNonFree⟩ := by
  simp only [ofJson?, Json.member?_eq_some hkeys hurls, Json.member?_eq_some hkeys hnonFree,
    ofFields?, urls?_array]
  rfl

theorem Sources.ofJson?_toJson (s : Sources) : ofJson? s.toJson = some s :=
  ofJson?_object (by simp) List.mem_cons_self (List.mem_cons_of_mem _ List.mem_cons_self)

theorem Sources.ofJson?_widened (h : Json.Widened ["urls", "include_non_free"] members wider) :
    ofJson? (.object wider) = ofJson? (.object members) := by
  simp only [ofJson?]
  rw [Json.member?_widened h (by decide), Json.member?_widened h (by decide)]

end Values

/-- What a kind, a release, an identity, a source list or an entry whose visibility is a word is
encoded to reads back as it. For all of them but the kind, members put into any object under keys
that are not their own change neither whether it reads nor what it reads as. -/
theorem encoded_values_read_back :
    (∀ k : Kind, Kind.ofJson? k.toJson = some k) ∧
    (∀ r : Release, Release.ofJson? r.toJson = some r) ∧
    (∀ i : Identity, Identity.ofJson? i.toJson = some i) ∧
    (∀ s : Sources, Sources.ofJson? s.toJson = some s) ∧
    (∀ e : Entry, Json.int64Min ≤ e.visibility → e.visibility ≤ Json.int64Max →
      Entry.ofEncoded? e.toJson = some e) ∧
    ∀ members wider : List (String × Json),
      (Json.Widened ["version", "zipUrl"] members wider →
        Release.ofJson? (.object wider) = Release.ofJson? (.object members)) ∧
      (Json.Widened ["type", "id", "name", "repo_url"] members wider →
        Identity.ofJson? (.object wider) = Identity.ofJson? (.object members)) ∧
      (Json.Widened ["urls", "include_non_free"] members wider →
        Sources.ofJson? (.object wider) = Sources.ofJson? (.object members)) ∧
      (Json.Widened Entry.fieldNames members wider →
        Entry.ofEncoded? (.object wider) = Entry.ofEncoded? (.object members)) :=
  ⟨Kind.ofJson?_toJson, Release.ofJson?_toJson, Identity.ofJson?_toJson, Sources.ofJson?_toJson,
    Entry.ofEncoded?_toJson, fun _ _ =>
      ⟨Release.ofJson?_widened, Identity.ofJson?_widened, Sources.ofJson?_widened,
        Entry.ofEncoded?_widened⟩⟩

theorem encoded_values_read_back_foreign :
    let e : Entry := ⟨.metaModules, "a", "", "", "", "", "", "", Json.int64Min, "", "", true⟩
    let widened (rest : List (String × Json)) := Json.object (("bannerUrl", .null) :: rest)
    Json.int64Min ≤ e.visibility ∧ e.visibility ≤ Json.int64Max ∧
      Entry.ofEncoded? e.toJson = some e ∧
      Release.ofJson? (widened [("version", .string "v1"), ("zipUrl", .string "u")]) =
        some ⟨"v1", "u"⟩ ∧
      Identity.ofJson? (widened [("type", .string "id"), ("id", .string "a")]) =
        some (.byId "a") ∧
      Sources.ofJson? (widened [("urls", .array []), ("include_non_free", .bool true)]) =
        some ⟨[], true⟩ ∧
      Entry.ofEncoded? (widened []) = none := by
  intro e widened
  obtain ⟨-, hrelease, hidentity, hsources, hentry, hwidened⟩ := encoded_values_read_back
  have hput (own : List String) (rest : List (String × Json)) (h : "bannerUrl" ∉ own) :
      Json.Widened own rest (("bannerUrl", .null) :: rest) := .added _ h (.refl own rest)
  have hmax : e.visibility ≤ Json.int64Max := by decide
  refine ⟨Int.le_refl _, hmax, hentry e (Int.le_refl _) hmax, ?_, ?_, ?_, ?_⟩
  · exact ((hwidened _ _).1 (hput _ _ (by decide))).trans (hrelease ⟨"v1", "u"⟩)
  · exact ((hwidened _ _).2.1 (hput _ _ (by decide))).trans (hidentity (.byId "a"))
  · exact ((hwidened _ _).2.2.1 (hput _ _ (by decide))).trans (hsources ⟨[], true⟩)
  · exact ((hwidened _ _).2.2.2 (hput _ _ (by decide))).trans rfl

end ModuleCatalog
