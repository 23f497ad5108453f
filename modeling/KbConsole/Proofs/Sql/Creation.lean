import KbConsole.Dispatch
import KbConsole.Proofs.Characters
import KbConsole.Proofs.Sql.Name

/-
  What a statement creates, found out from its text.

  The search for a created object reads the text of a
  statement again. It finds what the statement creates: a
  name ends before the first blank that follows it, whatever
  the user's own text says later on.

  Key definitions include:
    * `CreatedObject.IsRecognized`
    * `Sql.Statement.created?`
    * `Sql.Statement.Creates`

  The main statement is `Sql.Statement.isRecognized_text`,
  for every statement but the user's own.
-/

namespace KbConsole

open Sql

------------------------------------------------------------
-- Beginnings
------------------------------------------------------------

namespace CreatedObject

/- The phrase by which an object of a kind is created. -/
def phrase (kind : String × String) : String :=
  "create " ++ kind.1 ++ " "

/- The keywords of the objects that a request may create. -/
def keywords : List String :=
  ["DATABASE", "KNOWLEDGE_BASE", "AGENT", "MODEL", "JOB"]

/- A text that begins with another one. -/
def Begins (start sql : String) : Prop :=
  start.toList <+: sql.toList

instance (start sql : String) : Decidable (Begins start sql) :=
  inferInstanceAs (Decidable (start.toList <+: sql.toList))

/- A text that begins by creating an object with a keyword. -/
def BeginsCreation (sql : String) : Prop :=
  ∃ keyword ∈ keywords, Begins ("CREATE " ++ keyword ++ " ") sql

/- A text that is taken for the creation of an object. -/
structure IsRecognized
    (sql : String)
    (created : Option CreatedObject) : Prop where
  object : ofText? sql = created
  begins : BeginsCreation sql ↔ created.isSome = true

/- A name of which the search for an object misses nothing. -/
structure IsPlainName (name : String) : Prop where
  nonempty : name.toList ≠ []
  isNameChar : ∀ c ∈ name.toList, isNameChar c = true
  bare : ∀ c ∈ name.toList, c ≠ '\x60' ∧ c ≠ '\''

theorem begins_self (start : String) : Begins start start :=
  List.prefix_rfl

theorem Begins.append
    {start sql : String}
    (hBegins : Begins start sql)
    (rest : String) :
    Begins start (sql ++ rest) := by
  rw [Begins, String.toList_append]
  exact hBegins.trans (List.prefix_append _ _)

theorem Begins.prepend
    {start sql : String}
    (hBegins : Begins start sql)
    (before : String) :
    Begins (before ++ start) (before ++ sql) := by
  rw [Begins, String.toList_append, String.toList_append]
  exact (List.prefix_append_right_inj _).mpr hBegins

theorem afterPhrase?_eq_some_iff
    {phrase : String}
    {cs rest : List Char} :
    afterPhrase? phrase cs = some rest ↔
      ∃ start,
        cs = start ++ rest ∧
          start.map Char.toLower = phrase.toList := by
  unfold afterPhrase?
  constructor
  · intro hRest
    split at hRest
    · rename_i hPhrase
      obtain rfl := Option.some.inj hRest
      exact ⟨_, (List.take_append_drop _ cs).symm,
        beq_iff_eq.mp hPhrase⟩
    · cases hRest
  · rintro ⟨start, rfl, hPhrase⟩
    have hLength : start.length = phrase.length := by
      rw [← String.length_toList, ← hPhrase, List.length_map]
    rw [← hLength, List.take_left, List.drop_left,
      if_pos (beq_iff_eq.mpr hPhrase)]

/- No phrase begins like another one. -/
theorem eq_of_begins_phrase :
    ∀ kind ∈ kinds, ∀ other ∈ kinds,
      (phrase kind).toList <+: (phrase other).toList →
        kind = other := by
  decide

/- What is found in a text is announced by its beginning. -/
theorem phrase_prefix_of_ofKind?
    {cs : List Char}
    {kind : String × String}
    (hFound : ofKind? cs kind ≠ none) :
    (phrase kind).toList <+: cs.map Char.toLower := by
  cases hRest : afterPhrase? (phrase kind) cs with
  | none =>
      rw [ofKind?, ← phrase, hRest] at hFound
      exact absurd rfl hFound
  | some rest =>
      rcases afterPhrase?_eq_some_iff.mp hRest with
        ⟨start, rfl, hPhrase⟩
      rw [List.map_append, hPhrase]
      exact List.prefix_append _ _

theorem findSome?_eq_of_unique
    {α β : Type}
    {f : α → Option β}
    {items : List α}
    {item : α}
    {found : β}
    (hMember : item ∈ items)
    (hFound : f item = some found)
    (hOthers : ∀ other ∈ items, f other ≠ none → other = item) :
    items.findSome? f = some found := by
  cases hSome : items.findSome? f with
  | none =>
      have hNone := List.findSome?_eq_none_iff.mp hSome item
        hMember
      rw [hFound] at hNone
      cases hNone
  | some other =>
      rcases List.exists_of_findSome?_eq_some hSome with
        ⟨first, hFirst, hOther⟩
      have hSame : first = item := by
        apply hOthers first hFirst
        rw [hOther]
        exact Option.some_ne_none other
      rw [hSame, hFound] at hOther
      rw [hOther]

theorem ofKind?_of_start
    {cs start : List Char}
    {kind : String × String}
    {name : String}
    (hPhrase : start.map Char.toLower = (phrase kind).toList)
    (hName : IsPlainName name)
    (others : List Char)
    (hText : cs = start ++ (name.toList ++ ' ' :: others)) :
    ofKind? cs kind = some { label := kind.2, name } := by
  have hRest :
      afterPhrase? (phrase kind) cs =
        some (name.toList ++ ' ' :: others) :=
    afterPhrase?_eq_some_iff.mpr ⟨start, hText, hPhrase⟩
  have hChars :
      (name.toList ++ ' ' :: others).takeWhile isNameChar =
        name.toList := by
    rw [List.takeWhile_append_of_pos hName.isNameChar,
      List.takeWhile_cons_of_neg (by decide), List.append_nil]
  have hBare :
      name.toList.filter (· != '\x60') = name.toList := by
    rw [List.filter_eq_self]
    intro c hChar
    exact bne_iff_ne.mpr (hName.bare c hChar).1
  have hNonempty : name.toList.isEmpty = false := by
    rw [List.isEmpty_eq_false_iff]
    exact hName.nonempty
  rw [ofKind?, ← phrase, hRest]
  simp only [hChars, hNonempty, Bool.false_eq_true, if_false,
    hBare, String.ofList_toList]

/- A creation is recognized by its keyword and its name. -/
theorem isRecognized_creation
    (kind : String × String)
    (keyword : String)
    {opening name sql : String}
    (hKind : kind ∈ kinds)
    (hKeyword : keyword ∈ keywords)
    (hOpening : opening = "CREATE " ++ keyword ++ " ")
    (hPhrase :
      opening.toList.map Char.toLower = (phrase kind).toList)
    (hName : IsPlainName name)
    (hBegins : Begins (opening ++ name ++ " ") sql) :
    IsRecognized sql (some { label := kind.2, name }) := by
  rcases hBegins with ⟨others, hOthers⟩
  have hChars :
      sql.toList =
        opening.toList ++ (name.toList ++ ' ' :: others) := by
    rw [← hOthers]
    simp only [String.toList_append, List.append_assoc]
    rfl
  constructor
  · apply findSome?_eq_of_unique hKind
      (ofKind?_of_start hPhrase hName others hChars)
    intro other hOther hFound
    have hPrefix := phrase_prefix_of_ofKind? hFound
    have hOwn :
        (phrase kind).toList <+: sql.toList.map Char.toLower := by
      rw [hChars, List.map_append, hPhrase]
      exact List.prefix_append _ _
    rcases List.prefix_or_prefix_of_prefix hPrefix hOwn with
      hBegins | hBegins
    · exact eq_of_begins_phrase other hOther kind hKind hBegins
    · exact
        (eq_of_begins_phrase kind hKind other hOther
          hBegins).symm
  · refine iff_of_true ⟨keyword, hKeyword, ?_⟩ rfl
    rw [Begins, hChars, ← hOpening]
    exact List.prefix_append _ _

/- A text that begins differently creates nothing. -/
theorem isRecognized_other
    (start : String)
    {sql : String}
    (hStart :
      ∀ kind ∈ kinds,
        ¬ (phrase kind).toList <+:
            start.toList.map Char.toLower ∧
          ¬ start.toList.map Char.toLower <+:
            (phrase kind).toList)
    (hBegins : Begins start sql) :
    IsRecognized sql none := by
  have hChars :
      start.toList.map Char.toLower <+:
        sql.toList.map Char.toLower := hBegins.map Char.toLower
  have hNone
      (kind : String × String)
      (hKind : kind ∈ kinds) :
      ¬ (phrase kind).toList <+:
        sql.toList.map Char.toLower := by
    intro hPhrase
    rcases List.prefix_or_prefix_of_prefix hPhrase hChars with
      hBegins | hBegins
    · exact (hStart kind hKind).1 hBegins
    · exact (hStart kind hKind).2 hBegins
  constructor
  · rw [ofText?, List.findSome?_eq_none_iff]
    intro kind hKind
    by_contra hFound
    exact hNone kind hKind (phrase_prefix_of_ofKind? hFound)
  · refine iff_of_false ?_ (by simp)
    rintro ⟨keyword, hKeyword, hPrefix⟩
    have hKinds :
        ∀ keyword ∈ keywords, ∃ kind ∈ kinds,
          ("CREATE " ++ keyword ++ " ").toList.map
              Char.toLower =
            (phrase kind).toList := by
      decide
    rcases hKinds keyword hKeyword with ⟨kind, hKind, hPhrase⟩
    apply hNone kind hKind
    rw [← hPhrase]
    exact hPrefix.map Char.toLower

theorem isPlainName_name (name : Identifier) :
    IsPlainName name.text := by
  have hChar
      (c : Char)
      (hMember : c ∈ name.text.toList) :
      c = '_' ∨ c.isAlphanum = true := by
    by_cases hUnderscore : c = '_'
    · exact Or.inl hUnderscore
    · exact Or.inr (name.isAlphanum_of_mem hMember hUnderscore)
  constructor
  · rcases name.exists_cons with ⟨c, cs, hChars⟩
    rw [hChars]
    exact List.cons_ne_nil c cs
  · intro c hMember
    rcases hChar c hMember with rfl | hAlphanum
    · decide
    · simp [isNameChar, hAlphanum]
  · intro c hMember
    exact
      ⟨Identifier.ne_of_mem hMember rfl (by decide),
        Identifier.ne_of_mem hMember rfl (by decide)⟩

/- A period is part of the name of an object in a project. -/
theorem isPlainName_objectName (name : ObjectName) :
    IsPlainName name.text := by
  have hName := isPlainName_name name.name
  rw [ObjectName.text]
  cases name.project with
  | none => exact hName
  | some project =>
      have hProject := isPlainName_name project
      constructor
      · rw [String.toList_append]
        exact List.append_ne_nil_of_right_ne_nil _
          hName.nonempty
      · intro c hMember
        simp only [String.toList_append, List.mem_append]
          at hMember
        rcases hMember with (hMember | hMember) | hMember
        · exact hProject.isNameChar c hMember
        · rw [List.mem_singleton.mp hMember]
          decide
        · exact hName.isNameChar c hMember
      · intro c hMember
        simp only [String.toList_append, List.mem_append]
          at hMember
        rcases hMember with (hMember | hMember) | hMember
        · exact hProject.bare c hMember
        · rw [List.mem_singleton.mp hMember]
          decide
        · exact hName.bare c hMember

end CreatedObject

------------------------------------------------------------
-- Statements
------------------------------------------------------------

namespace Sql

namespace Statement

open CreatedObject

/- The object that a statement creates. -/
def created? : Statement → Option CreatedObject
  | createKnowledgeBase name _ =>
      some { label := "Knowledge base", name := name.text }
  | createDatasource name _ =>
      some { label := "Datasource", name := name.text }
  | createAgent name _ =>
      some { label := "Agent", name := name.text }
  | createModel name _ _ _ =>
      some { label := "Model", name := name.text }
  | createJob job =>
      some { label := "Job", name := job.name.text }
  | _ => none

/- Whether a statement is taken over from the user. -/
def isVerbatim : Statement → Bool
  | verbatim _ => true
  | _ => false

theorem isPlainName_of_created?
    {s : Statement}
    {object : CreatedObject}
    (hCreated : s.created? = some object) :
    IsPlainName object.name := by
  unfold created? at hCreated
  split at hCreated
  · obtain rfl := Option.some.inj hCreated
    exact isPlainName_name _
  · obtain rfl := Option.some.inj hCreated
    exact isPlainName_name _
  · obtain rfl := Option.some.inj hCreated
    exact isPlainName_name _
  · obtain rfl := Option.some.inj hCreated
    exact isPlainName_objectName _
  · obtain rfl := Option.some.inj hCreated
    exact isPlainName_objectName _
  · cases hCreated

theorem begins_listText
    (d : Dialect)
    (options : List Assignment) :
    Begins " " (Assignment.listText d options) :=
  Begins.append (by decide) _

/- The text of a statement tells what the statement creates. -/
theorem isRecognized_text
    (d : Dialect)
    {s : Statement}
    (hOwn : s.isVerbatim = false) :
    IsRecognized (s.text d) s.created? := by
  cases s with
  | createKnowledgeBase name options =>
      exact isRecognized_creation
        ("knowledge_base", "Knowledge base") "KNOWLEDGE_BASE"
        (by decide) (by decide) rfl (by decide)
        (isPlainName_name name)
        (((begins_listText d options).prepend _).append ";")
  | createDatasource name engine =>
      have hBlank : Begins " " " WITH ENGINE = " := by decide
      exact isRecognized_creation ("database", "Datasource")
        "DATABASE" (by decide) (by decide) rfl (by decide)
        (isPlainName_name name)
        (((hBlank.prepend _).append _).append ";")
  | createAgent name options =>
      exact isRecognized_creation ("agent", "Agent") "AGENT"
        (by decide) (by decide) rfl (by decide)
        (isPlainName_name name)
        (((begins_listText d options).prepend _).append ";")
  | createModel name query predict options =>
      have hBlank : Begins " " " FROM (" := by decide
      exact isRecognized_creation ("model", "Model") "MODEL"
        (by decide) (by decide) rfl (by decide)
        (isPlainName_objectName name)
        ((((((hBlank.prepend _).append query).append _).append
          predict.text).append _).append ";")
  | createJob job =>
      have hBlank : Begins " " " (" := by decide
      exact isRecognized_creation ("job", "Job") "JOB"
        (by decide) (by decide) rfl (by decide)
        (isPlainName_objectName job.name)
        ((((((((hBlank.prepend _).append _).append _).append
          _).append _).append _).append _).append ";")
  | insert insertion =>
      apply isRecognized_other "INSERT INTO " (by decide)
      unfold text body Insertion.text
      repeat' with_reducible apply Begins.append
      exact begins_self _
  | search knowledgeBase query conditions limit =>
      apply isRecognized_other "SELECT * FROM " (by decide)
      unfold text body
      repeat' with_reducible apply Begins.append
      exact begins_self _
  | createIndex knowledgeBase =>
      exact isRecognized_other "CREATE INDEX ON KNOWLEDGE_BASE "
        (by decide) (((begins_self _).append _).append ";")
  | showDatabases =>
      exact isRecognized_other "SHOW DATABASES" (by decide)
        ((begins_self _).append ";")
  | askAgent name question =>
      apply isRecognized_other "SELECT answer FROM " (by decide)
      unfold text body
      repeat' with_reducible apply Begins.append
      exact begins_self _
  | evaluate knowledgeBase options =>
      apply isRecognized_other "EVALUATE KNOWLEDGE_BASE "
        (by decide)
      unfold text body
      repeat' with_reducible apply Begins.append
      exact begins_self _
  | showModels project =>
      cases project with
      | none =>
          exact isRecognized_other "SHOW MODELS" (by decide)
            ((begins_self _).append ";")
      | some project =>
          exact isRecognized_other "SHOW MODELS FROM "
            (by decide) (((begins_self _).append _).append ";")
  | describeModel name =>
      exact isRecognized_other "DESCRIBE MODEL " (by decide)
        (((begins_self _).append _).append ";")
  | dropModel name =>
      exact isRecognized_other "DROP MODEL " (by decide)
        (((begins_self _).append _).append ";")
  | retrain name =>
      exact isRecognized_other "RETRAIN " (by decide)
        (((begins_self _).append _).append ";")
  | verbatim sql => cases hOwn
  | showJobs =>
      exact isRecognized_other "SHOW JOBS" (by decide)
        ((begins_self _).append ";")
  | selectJobs project =>
      exact isRecognized_other "SELECT * FROM " (by decide)
        (((begins_self _).append _).append ";")
  | selectJob table project job =>
      exact isRecognized_other "SELECT * FROM " (by decide)
        ((((begins_self _).append _).append _).append ";")
  | selectRuns project job limit =>
      apply isRecognized_other
        "SELECT run_start, run_end, error, query FROM "
        (by decide)
      unfold text body
      repeat' with_reducible apply Begins.append
      exact begins_self _
  | dropJob name =>
      exact isRecognized_other "DROP JOB " (by decide)
        (((begins_self _).append _).append ";")

end Statement

/- A reference is written as the user names the object. -/
theorem ObjectName.text_of_ofRef
    {field : String}
    {ref : ObjectRef}
    {name : ObjectName}
    (hName : ofRef field ref = .ok name) :
    name.text = ref.qualified := by
  simp only [ofRef, bind_eq_ok_iff, pure_eq_ok_iff,
    Identifier.ofText_eq_ok_iff] at hName
  rcases hName with ⟨own, hOwn, project, hProject, rfl⟩
  unfold project? at hProject
  unfold ObjectName.text ObjectRef.qualified
  cases hGiven : given? ref.project with
  | none =>
      rw [hGiven] at hProject
      obtain rfl := Except.ok.inj hProject
      exact hOwn
  | some text =>
      rw [hGiven] at hProject
      simp only [map_eq_ok_iff, Identifier.ofText_eq_ok_iff]
        at hProject
      rcases hProject with ⟨name, rfl, rfl⟩
      rw [← hOwn]

/- What a statement creates; it is not the user's own. -/
structure Statement.Creates
    (s : Statement)
    (object : Option CreatedObject) : Prop where
  created : s.created? = object
  isVerbatim : s.isVerbatim = false

end Sql

end KbConsole
