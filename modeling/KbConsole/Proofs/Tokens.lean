import KbConsole.Proofs.Layout
import KbConsole.Proofs.Sql.Terminator

/-
  The tokens of a text, and its words.

  A text with tokens consists of two margins and, between
  them, of the tokens with a break between each two. The
  words of a text are its tokens; so every text has tokens
  in one way only.

  Key definitions include:
    * `Text.IsToken`, `Text.IsBreak`
    * `Text.Chain`
    * `Text.HasTokens`

  The main statements are `Text.words_eq_iff` and
  `Text.chain_trimChars_iff`.
-/

namespace KbConsole

namespace Text

/- A token is not empty, and no blank is part of it. -/
structure IsToken (s : String) : Prop where
  notEmpty : s ≠ ""
  noBlank : ∀ c ∈ s.toList, isBlank c = false

instance (s : String) : Decidable (IsToken s) :=
  decidable_of_iff
    (s ≠ "" ∧ s.toList.all (! isBlank ·) = true)
    ⟨fun h => ⟨h.1, by simpa using h.2⟩,
      fun h => ⟨h.notEmpty, by simpa using h.noBlank⟩⟩

/- A break consists of one or more blanks. -/
structure IsBreak (cs : List Char) : Prop where
  notEmpty : cs ≠ []
  blank : ∀ c ∈ cs, isBlank c = true

theorem isBreak_space : IsBreak [' '] :=
  ⟨List.cons_ne_nil _ _, List.forall_mem_singleton.mpr rfl⟩

/- One or more tokens, with a break between each two. -/
inductive Chain : List Char → List String → Prop where
  | last
      {token : String}
      (hToken : IsToken token) :
      Chain token.toList [token]
  | cons
      {token : String}
      {gap rest : List Char}
      {tokens : List String}
      (hToken : IsToken token)
      (hBreak : IsBreak gap)
      (hRest : Chain rest tokens) :
      Chain (token.toList ++ gap ++ rest) (token :: tokens)

/- The tokens of a text, which may have blank margins. -/
inductive HasTokens (s : String) : List String → Prop where
  | none (hBlank : ∀ c ∈ s.toList, isBlank c = true) :
      HasTokens s []
  | some
      {front core back : List Char}
      {tokens : List String}
      (hText : s.toList = front ++ core ++ back)
      (hFront : ∀ c ∈ front, isBlank c = true)
      (hBack : ∀ c ∈ back, isBlank c = true)
      (hChain : Chain core tokens) :
      HasTokens s tokens

variable {s : String}
variable {cs : List Char}
variable {tokens : List String}

------------------------------------------------------------
-- Words of Tokens
------------------------------------------------------------

theorem words_ofList (cs : List Char) :
    words (String.ofList cs) =
      ((splitBy isBlank cs).filter (! ·.isEmpty)).map
        String.ofList := by
  rw [words, String.toList_ofList]

/- Blanks in front are in no word. -/
theorem words_blanks_append
    {front : List Char}
    (hFront : ∀ c ∈ front, isBlank c = true)
    (rest : List Char) :
    words (String.ofList (front ++ rest)) =
      words (String.ofList rest) := by
  induction front with
  | nil => rfl
  | cons c front ih =>
      rw [List.forall_mem_cons] at hFront
      rw [← ih hFront.2, words_ofList, words_ofList,
        List.cons_append, splitBy, if_pos hFront.1]
      rfl

theorem words_blanks
    (hBlank : ∀ c ∈ cs, isBlank c = true) :
    words (String.ofList cs) = [] := by
  rw [← List.append_nil cs, words_blanks_append hBlank]
  rfl

/- A token is a word if no other character follows it. -/
theorem words_token_append
    {token : String}
    (hToken : IsToken token)
    {rest : List Char}
    (hEnds : ∀ c ∈ rest.head?, isBlank c = true) :
    words (String.ofList (token.toList ++ rest)) =
      token :: words (String.ofList rest) := by
  have hKept : (! token.toList.isEmpty) = true := by
    simpa using hToken.notEmpty
  cases rest with
  | nil =>
      rw [List.append_nil, words_ofList,
        splitBy_of_forall hToken.noBlank, List.filter_singleton,
        hKept, cond_true, List.map_singleton,
        String.ofList_toList]
      rfl
  | cons c rest =>
      have hSeparator := hEnds c rfl
      have hLater := words_blanks_append
        (List.forall_mem_singleton.mpr hSeparator) rest
      rw [List.singleton_append] at hLater
      rw [hLater, words_ofList,
        splitBy_append_cons hToken.noBlank hSeparator,
        List.filter_cons, if_pos hKept, List.map_cons,
        String.ofList_toList, words_ofList]

theorem IsBreak.head?_append
    {gap : List Char}
    (hBreak : IsBreak gap)
    (rest : List Char) :
    ∀ c ∈ (gap ++ rest).head?, isBlank c = true := by
  intro c hHead
  rw [List.head?_append_of_ne_nil _ hBreak.notEmpty] at hHead
  exact hBreak.blank c (List.mem_of_mem_head? hHead)

theorem words_chain_append
    (hChain : Chain cs tokens)
    {back : List Char}
    (hBack : ∀ c ∈ back, isBlank c = true) :
    words (String.ofList (cs ++ back)) = tokens := by
  induction hChain with
  | last hToken =>
      rw [words_token_append hToken, words_blanks hBack]
      intro c hHead
      exact hBack c (List.mem_of_mem_head? hHead)
  | cons hToken hBreak _ ih =>
      rw [List.append_assoc, List.append_assoc,
        words_token_append hToken (hBreak.head?_append _),
        words_blanks_append hBreak.blank, ih]

theorem words_of_hasTokens
    (hTokens : HasTokens s tokens) :
    words s = tokens := by
  rw [← String.ofList_toList (s := s)]
  cases hTokens with
  | none hBlank => exact words_blanks hBlank
  | some hText hFront hBack hChain =>
      rw [hText, List.append_assoc, words_blanks_append hFront,
        words_chain_append hChain hBack]

------------------------------------------------------------
-- Every Text has Tokens
------------------------------------------------------------

theorem isToken_ofList_cons
    {c : Char}
    (hFirst : isBlank c = false)
    (hRest : ∀ x ∈ cs, isBlank x = false) :
    IsToken (String.ofList (c :: cs)) := by
  constructor
  · intro hEmpty
    have hChars := congrArg String.toList hEmpty
    rw [String.toList_ofList] at hChars
    cases hChars
  · rw [String.toList_ofList, List.forall_mem_cons]
    exact ⟨hFirst, hRest⟩

theorem chain_singleton
    {c : Char}
    (hFirst : isBlank c = false) :
    Chain [c] [String.ofList [c]] := by
  have hToken :=
    isToken_ofList_cons hFirst (List.forall_mem_nil _)
  have hChain := Chain.last hToken
  rwa [String.toList_ofList] at hChain

/- A character in front belongs to the first token. -/
theorem Chain.exists_push
    (hChain : Chain cs tokens)
    {c : Char}
    (hFirst : isBlank c = false) :
    ∃ others, Chain (c :: cs) others := by
  cases hChain with
  | last hToken =>
      have hLonger :=
        Chain.last (isToken_ofList_cons hFirst hToken.noBlank)
      rw [String.toList_ofList] at hLonger
      exact ⟨_, hLonger⟩
  | cons hToken hBreak hRest =>
      have hLonger :=
        Chain.cons (isToken_ofList_cons hFirst hToken.noBlank)
          hBreak hRest
      rw [String.toList_ofList] at hLonger
      exact ⟨_, hLonger⟩

/- A character before a margin is a token of its own. -/
theorem exists_chain_cons
    {c : Char}
    (hFirst : isBlank c = false)
    {front : List Char}
    (hFront : ∀ x ∈ front, isBlank x = true)
    (hChain : Chain cs tokens) :
    ∃ others, Chain (c :: (front ++ cs)) others := by
  cases front with
  | nil => exact hChain.exists_push hFirst
  | cons blank front =>
      have hToken :=
        isToken_ofList_cons hFirst (List.forall_mem_nil _)
      have hLonger :=
        Chain.cons hToken ⟨List.cons_ne_nil _ _, hFront⟩ hChain
      rw [String.toList_ofList] at hLonger
      exact ⟨_, hLonger⟩

/- Characters are all blank, or a chain between margins. -/
theorem exists_chain (cs : List Char) :
    (∀ c ∈ cs, isBlank c = true) ∨
      ∃ front core back tokens,
        cs = front ++ core ++ back ∧
          (∀ c ∈ front, isBlank c = true) ∧
          (∀ c ∈ back, isBlank c = true) ∧
          Chain core tokens := by
  induction cs with
  | nil => exact Or.inl (List.forall_mem_nil _)
  | cons c cs ih =>
      cases hFirst : isBlank c with
      | true =>
          rcases ih with hBlank |
            ⟨front, core, back, tokens, rfl, hFront, hRest⟩
          · exact
              Or.inl (List.forall_mem_cons.mpr ⟨hFirst, hBlank⟩)
          · exact
              Or.inr
                ⟨c :: front, core, back, tokens, rfl,
                  List.forall_mem_cons.mpr ⟨hFirst, hFront⟩,
                  hRest⟩
      | false =>
          right
          rcases ih with hBlank |
            ⟨front, core, back, tokens, rfl, hFront, hBack,
              hChain⟩
          · exact
              ⟨[], [c], cs, _, rfl, List.forall_mem_nil _,
                hBlank, chain_singleton hFirst⟩
          · rcases exists_chain_cons hFirst hFront hChain with
              ⟨others, hLonger⟩
            exact
              ⟨[], c :: (front ++ core), back, others, rfl,
                List.forall_mem_nil _, hBack, hLonger⟩

theorem exists_hasTokens (s : String) :
    ∃ tokens, HasTokens s tokens := by
  rcases exists_chain s.toList with hBlank |
    ⟨front, core, back, tokens, hText, hFront, hBack, hChain⟩
  · exact ⟨[], .none hBlank⟩
  · exact ⟨tokens, .some hText hFront hBack hChain⟩

/- The words of a text are its tokens. -/
theorem words_eq_iff :
    words s = tokens ↔ HasTokens s tokens := by
  constructor
  · rintro rfl
    rcases exists_hasTokens s with ⟨tokens, hTokens⟩
    rwa [words_of_hasTokens hTokens]
  · exact words_of_hasTokens

------------------------------------------------------------
-- Texts without Margins
------------------------------------------------------------

theorem IsToken.exists_cons
    {token : String}
    (hToken : IsToken token) :
    ∃ c rest,
      token.toList = c :: rest ∧ isBlank c = false := by
  have hSome : token.toList ≠ [] := by
    simpa using hToken.notEmpty
  rcases List.exists_cons_of_ne_nil hSome with ⟨c, rest, hCons⟩
  refine ⟨c, rest, hCons, hToken.noBlank c ?_⟩
  rw [hCons]
  exact List.mem_cons_self

/- A chain begins with a token. -/
theorem Chain.exists_cons
    (hChain : Chain cs tokens) :
    ∃ c rest, cs = c :: rest ∧ isBlank c = false := by
  cases hChain with
  | last hToken => exact hToken.exists_cons
  | cons hToken hBreak hRest =>
      rcases hToken.exists_cons with ⟨c, rest, hCons, hFirst⟩
      rw [hCons]
      exact ⟨c, _, rfl, hFirst⟩

/- A chain ends with a token. -/
theorem Chain.getLast?
    (hChain : Chain cs tokens) :
    ∀ c ∈ cs.getLast?, isBlank c = false := by
  induction hChain with
  | last hToken =>
      intro c hLast
      exact hToken.noBlank c (List.mem_of_getLast? hLast)
  | cons _ _ hRest ih =>
      rcases hRest.exists_cons with ⟨c, rest, rfl, -⟩
      rw [List.getLast?_append_of_ne_nil _
        (List.cons_ne_nil c rest)]
      exact ih

theorem Chain.tokens_ne_nil
    (hChain : Chain cs tokens) :
    tokens ≠ [] := by
  cases hChain <;> exact List.cons_ne_nil _ _

theorem Chain.isToken_head
    {token : String}
    (hChain : Chain cs (token :: tokens)) :
    IsToken token := by
  cases hChain <;> assumption

theorem Chain.eq_of_singleton
    {token : String}
    (hChain : Chain cs [token]) :
    cs = token.toList := by
  cases hChain with
  | last => rfl
  | cons _ _ hRest => exact absurd rfl hRest.tokens_ne_nil

/- Without its margins, a text with tokens is a chain. -/
theorem chain_trimChars_iff :
    Chain (trimChars s.toList) tokens ↔
      HasTokens s tokens ∧ tokens ≠ [] := by
  constructor
  · intro hChain
    rcases exists_trimChars_append s.toList with
      ⟨front, back, hText, hFront, hBack⟩
    exact
      ⟨.some hText hFront hBack hChain, hChain.tokens_ne_nil⟩
  · rintro ⟨hTokens, hSome⟩
    cases hTokens with
    | none => exact absurd rfl hSome
    | @some front core back _ hText hFront hBack hChain =>
        have hLast := hChain.getLast?
        rcases hChain.exists_cons with ⟨c, rest, rfl, hFirst⟩
        rw [hText, trimChars_append hFirst hLast hBack,
          List.dropWhile_eq_nil_iff.mpr hFront,
          List.nil_append]
        exact hChain

theorem Chain.hasTokens
    (hChain : Chain cs tokens)
    (hText : s.toList = cs) :
    HasTokens s tokens := by
  subst hText
  exact
    .some (by rw [List.append_nil]; rfl) (List.forall_mem_nil _)
      (List.forall_mem_nil _) hChain

------------------------------------------------------------
-- Parts that may be Missing
------------------------------------------------------------

/- A token that may be missing, and the break behind it. -/
inductive Leads : Option String → List Char → Prop where
  | absent : Leads none []
  | present
      (token : String)
      {gap : List Char}
      (hBreak : IsBreak gap) :
      Leads (some token) (token.toList ++ gap)

variable {part : Option String}

theorem Leads.chain_append
    {front : List Char}
    (hLeads : Leads part front)
    (hPart : ∀ token ∈ part, IsToken token)
    (hChain : Chain cs tokens) :
    Chain (front ++ cs) (part.toList ++ tokens) := by
  cases hLeads with
  | absent => exact hChain
  | present token hBreak =>
      exact .cons (hPart token rfl) hBreak hChain

/- A chain can be cut behind the break after a token. -/
theorem exists_leads
    (hChain : Chain cs (part.toList ++ tokens))
    (hSome : tokens ≠ []) :
    ∃ front rest,
      Leads part front ∧
        Chain rest tokens ∧
        cs = front ++ rest := by
  cases part with
  | none => exact ⟨[], cs, .absent, hChain, rfl⟩
  | some token =>
      cases hChain with
      | last => exact absurd rfl hSome
      | cons hToken hBreak hRest =>
          exact ⟨_, _, .present token hBreak, hRest, rfl⟩

end Text

end KbConsole
