import Runbook.Backend.Postgres
import Runbook.Proofs.Texts
import Runbook.Settings.Reader

/-! # Search paths

The search path of a database session lists the schema of the application, `public` and the
administrative schema, with commas between them. It has an element without a name exactly when a
schema in it has one, such as an empty schema of the application, which is listed although it is
said to be left out.
-/
namespace Runbook

namespace Text

def elements (t : Text) : List Text := t.splitOn ','

/-- No element of the list is blank. -/
def AllNamed (t : Text) : Prop := ∀ element ∈ elements t, ¬ isBlankText element = true

theorem elements_append (s t : Text) : elements (s ++ ',' :: t) = elements s ++ elements t :=
  List.splitOn_append_cons_self s t

theorem allNamed_append_iff (s t : Text) :
    AllNamed (s ++ ',' :: t) ↔ AllNamed s ∧ AllNamed t := by
  rw [AllNamed, elements_append, List.forall_mem_append]
  rfl

/-- A space before the list is no name. -/
theorem allNamed_space_iff (t : Text) : AllNamed (' ' :: t) ↔ AllNamed t := by
  have hsplit : elements (' ' :: t) = (elements t).modifyHead (' ' :: ·) :=
    List.splitOn_cons_eq_if_modifyHead ' ' t
  rw [AllNamed, AllNamed, hsplit]
  cases elements t with
  | nil => rfl
  | cons first rest =>
    have hblank : isBlankText (' ' :: first) = isBlankText first := rfl
    rw [List.modifyHead_cons, List.forall_mem_cons, List.forall_mem_cons, hblank]

theorem elements_of_isBlankText {t : Text} (h : isBlankText t = true) : elements t = [t] :=
  List.splitOn_eq_singleton fun hcomma =>
    absurd (List.all_eq_true.mp h ',' hcomma) Bool.false_ne_true

theorem AllNamed.not_isBlankText {t : Text} (h : AllNamed t) : ¬ isBlankText t = true := by
  intro hblank
  refine h t ?_ hblank
  rw [elements_of_isBlankText hblank]
  exact List.mem_singleton_self t

end Text

namespace DatabaseSettings

/-- The schemas that are to be searched: where that of the application is blank, only the two
others. -/
def searched (s : DatabaseSettings) : List Text :=
  (if Text.isBlankText s.effectiveSchema then [] else [s.effectiveSchema]) ++
    ["public".toList, s.adminSchema]

/-- The search path lists the schemas that are to be searched, and names each. -/
structure Searchable (s : DatabaseSettings) : Prop where
  listed : s.searchPath = Text.join ", ".toList s.searched
  named : Text.AllNamed s.searchPath

theorem searchPath_eq (s : DatabaseSettings) :
    s.searchPath =
      s.effectiveSchema ++ ',' :: ' ' :: ("public".toList ++ ',' :: ' ' :: s.adminSchema) := by
  simp [searchPath, Text.join]

theorem allNamed_searchPath_iff (s : DatabaseSettings) :
    Text.AllNamed s.searchPath ↔ Text.AllNamed s.effectiveSchema ∧ Text.AllNamed s.adminSchema := by
  have hpublic : Text.AllNamed "public".toList := by
    unfold Text.AllNamed
    decide
  rw [searchPath_eq, Text.allNamed_append_iff, Text.allNamed_space_iff, Text.allNamed_append_iff,
    Text.allNamed_space_iff, and_iff_right hpublic]

theorem searchable_iff_allNamed (s : DatabaseSettings) :
    s.Searchable ↔ Text.AllNamed s.effectiveSchema ∧ Text.AllNamed s.adminSchema := by
  constructor
  · intro h
    exact s.allNamed_searchPath_iff.mp h.named
  · intro h
    refine ⟨?_, s.allNamed_searchPath_iff.mpr h⟩
    rw [searched, if_neg h.1.not_isBlankText]
    rfl

/-- The schema of the application is blank when it is given so, and when it is derived from a user
name that has nothing before its ending. -/
theorem isBlankText_effectiveSchema_iff {s : DatabaseSettings}
    (user : Text.isBlankText s.user = false) :
    Text.isBlankText s.effectiveSchema = true ↔
      (∃ schema, s.schema = some schema ∧ Text.isBlankText schema = true) ∨
        s.schema = none ∧ ∃ name, Text.isBlankText name = true ∧ s.user = name ++ userEnding := by
  rw [effectiveSchema]
  cases hschema : s.schema with
  | some schema => simp
  | none =>
    cases hname : Text.before? userEnding s.user with
    | some name =>
      have huser := Text.before?_eq_some_iff.mp hname
      constructor
      · intro blank
        exact .inr ⟨rfl, name, blank, huser⟩
      · rintro (⟨schema, h, -⟩ | ⟨-, name', blank, huser'⟩)
        · cases h
        · rw [huser] at huser'
          rwa [List.append_cancel_right huser']
    | none =>
      constructor
      · intro blank
        exact absurd (user.symm.trans blank) Bool.false_ne_true
      · rintro (⟨schema, h, -⟩ | ⟨-, name, -, huser⟩)
        · cases h
        · rw [Text.before?_eq_some_iff.mpr huser] at hname
          cases hname

end DatabaseSettings

theorem Settings.not_isBlankText_user {s : DatabaseSettings} (h : fault? (.database s) = none) :
    Text.isBlankText s.user = false := by
  obtain ⟨-, h⟩ := Option.or_eq_none_iff.mp h
  obtain ⟨huser, -⟩ := Option.or_eq_none_iff.mp h
  rw [blankField] at huser
  split at huser
  · cases huser
  · rename_i hblank
    exact Bool.eq_false_iff.mpr hblank

theorem Settings.fault?_of_parse {text : Text} {path : Path} {settings : Settings}
    (h : parse text path = .ok settings) : fault? settings.target = none := by
  rw [parse] at h
  split at h
  · cases h
  · split at h
    · cases h
    · split at h
      · cases h
      · split at h
        · cases h
        · rename_i target _ hfault
          obtain rfl := Except.ok.inj h
          exact hfault

namespace Postgres

theorem query_not_mem_authenticate (s : DatabaseSettings) (a : Authentication) (sql : Text) :
    .query sql ∉ (authenticate s a).2 := by
  rw [authenticate]
  split
  · exact List.not_mem_nil
  · cases a with
    | trust => simp
    | password | reject =>
      simp only
      split <;> simp

/-- The only query of a connection sets the search path. -/
theorem query_of_mem_connect {s : DatabaseSettings} {server : Server} {sql : Text}
    (h : .query sql ∈ (connect s server).2) : sql = setSearchPath s := by
  have unqueried := query_not_mem_authenticate s server.authentication sql
  have prepared : .query sql ∈ (prepare s server.setup).2 → sql = setSearchPath s := by
    rw [prepare]
    split
    · exact fun h => absurd h List.not_mem_nil
    · intro h
      exact Request.query.inj (List.mem_singleton.mp h)
  rw [connect] at h
  split at h
  · rename_i hauthenticate
    rw [hauthenticate] at unqueried
    exact absurd h unqueried
  · rename_i hauthenticate
    rw [hauthenticate] at unqueried
    split at h
    all_goals
      rename_i hprepare
      rw [hprepare] at prepared
      exact prepared ((List.mem_append.mp h).resolve_left unqueried)

end Postgres

/-- Settings that are accepted give a search path as it should be exactly when the schema of the
application and the administrative schema are lists without a blank element. That schema is blank
when it is given so, or derived from the bare ending of a user name. The search path is what a
connection sends. -/
theorem searchable_iff {text : Text} {path : Path} {settings : Settings} {s : DatabaseSettings}
    (accepted : Settings.parse text path = .ok settings)
    (database : settings.target = .database s) :
    (s.Searchable ↔ Text.AllNamed s.effectiveSchema ∧ Text.AllNamed s.adminSchema) ∧
      (Text.isBlankText s.effectiveSchema = true ↔
        (∃ schema, s.schema = some schema ∧ Text.isBlankText schema = true) ∨
          s.schema = none ∧ ∃ name, Text.isBlankText name = true ∧
            s.user = name ++ DatabaseSettings.userEnding) ∧
      ∀ server sql, .query sql ∈ (Postgres.connect s server).2 →
        sql = "SET SEARCH_PATH = ".toList ++ s.searchPath := by
  have hfault := Settings.fault?_of_parse accepted
  rw [database] at hfault
  exact ⟨s.searchable_iff_allNamed,
    DatabaseSettings.isBlankText_effectiveSchema_iff (Settings.not_isBlankText_user hfault),
    fun _ _ => Postgres.query_of_mem_connect⟩

/-- A user name whose ending is not all of it, and a connection that sends its search path. -/
theorem searchable_iff_userName :
    let text := "[database]\nhost = \"h\"\nuser = \"shop_user\"\n".toList
    let s : DatabaseSettings :=
      ⟨"h".toList, 5432, "shop_user".toList, [], none, none, "ng_rest".toList⟩
    let sql := "SET SEARCH_PATH = shop, public, ng_rest".toList
    Settings.parse text (.ofText "c".toList) = .ok ⟨.ofText "c".toList, .database s⟩ ∧
      s.Searchable ∧ .query sql ∈ (Postgres.connect s ⟨.trust, [], ⟨[], []⟩⟩).2 ∧
      sql = "SET SEARCH_PATH = ".toList ++ s.searchPath := by
  intro text s sql
  have accepted : Settings.parse text (.ofText "c".toList) =
      .ok ⟨.ofText "c".toList, .database s⟩ := by decide +kernel
  have sent : .query sql ∈ (Postgres.connect s ⟨.trust, [], ⟨[], []⟩⟩).2 := by decide
  obtain ⟨searchable, -, statement⟩ := searchable_iff accepted rfl
  refine ⟨accepted, searchable.mpr ⟨?_, ?_⟩, sent, statement _ _ sent⟩
  all_goals
    unfold Text.AllNamed
    decide

/-- An empty schema of the application, of which is warned that the two others are searched. It is
the first element of the list all the same. -/
theorem not_searchable_emptySchema :
    let text := "[database]\nhost = \"h\"\nuser = \"shop_user\"\npassword = \"p\"\nschema = \"\"\n"
    let s : DatabaseSettings :=
      ⟨"h".toList, 5432, "shop_user".toList, "p".toList, none, some [], "ng_rest".toList⟩
    Settings.parse text.toList (.ofText "c".toList) = .ok ⟨.ofText "c".toList, .database s⟩ ∧
      Settings.warnings (.database s) = [⟨"database".toList, "schema".toList,
        "schema is empty; only public and the admin schema will be searched".toList⟩] ∧
      s.searchPath = ", public, ng_rest".toList ∧ ¬ s.Searchable := by
  intro text s
  refine ⟨by decide +kernel, by decide, by decide, fun h => ?_⟩
  exact absurd h.listed (by decide)

end Runbook
