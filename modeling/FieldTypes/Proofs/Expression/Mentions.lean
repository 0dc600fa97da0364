import FieldTypes.Proofs.Expression.Acceptance

/-! The names that a text mentions.  Reading a text asks for the meanings of these names
and of no others, so it comes to the same wherever they have the same meanings. -/

namespace FieldTypes.Expression

open Text

/-! ## Mentioned names -/

/-- A name may begin where the rest of the text begins: nothing stands in front that the
name would go on from, and no question mark, behind which a word is the keyword of a
bound. -/
def OpensName (text rest : List Char) : Prop :=
  ∃ before, text = before ++ rest ∧
    (∀ last ∈ before.getLast?, belongsToName false last = false) ∧
    ∀ last ∈ (skipBlank before.reverse).head?, last ≠ '?'

/-- The name stands in the text, and not as part of a longer name. -/
def Mentions (text : List Char) (name : String) : Prop :=
  ∃ start rest, OpensName text start ∧ NameAt start name.toList rest

variable {whole text rest : List Char} {character : Char}

theorem OpensName.isSuffix (opens : OpensName text rest) : rest <:+ text := by
  rcases opens with ⟨before, rfl, -, -⟩
  exact List.suffix_append before rest

theorem NameAt.isPrefix {name : List Char} (here : NameAt text name rest) : name <+: text := by
  rw [here.split]
  exact List.prefix_append name rest

/-- A name that is mentioned occurs in the text. -/
theorem Mentions.isInfix {name : String} (mentions : Mentions text name) :
    name.toList <:+: text := by
  rcases mentions with ⟨start, rest, opens, here⟩
  exact here.isPrefix.isInfix.trans opens.isSuffix.isInfix

theorem Scope.simpleName_isSuffix (name : List Char) : simpleName name <:+ name := by
  rw [simpleName, ← List.reverse_prefix, List.reverse_reverse]
  exact List.takeWhile_prefix _

/-! ## Where names may begin -/

theorem opensName_refl (text : List Char) : OpensName text text :=
  ⟨[], rfl, by simp, by simp [skipBlank]⟩

theorem OpensName.skips {start : List Char} (opens : OpensName whole text)
    (skips : Skips text start) : OpensName whole start := by
  rcases opens with ⟨before, rfl, apart, unmarked⟩
  rcases skips with ⟨blank, allBlank, rfl⟩
  refine ⟨before ++ blank, (List.append_assoc ..).symm, ?_, ?_⟩
  · intro last member
    rw [Option.mem_def, List.getLast?_append] at member
    cases ending : blank.getLast? with
    | none =>
        rw [ending, Option.none_or] at member
        exact apart last member
    | some space =>
        rw [ending, Option.some_or, Option.some.injEq] at member
        subst member
        exact belongsToName_false_of_isBlank (allBlank _ (List.mem_of_getLast? ending))
  · rw [List.reverse_append, skipBlank, List.dropWhile_append_of_pos]
    · exact unmarked
    · intro character member
      exact allBlank character (List.mem_reverse.mp member)

/-- Behind a bracket or a comma. -/
theorem opensName_of_mark (suffix : (character :: rest) <:+ text)
    (mark : isPunctuation character = true) (visible : isBlank character = false)
    (different : character ≠ '?') : OpensName text rest := by
  rcases suffix with ⟨before, rfl⟩
  refine ⟨before ++ [character], by simp, ?_, ?_⟩
  · simpa using not_belongsToName_of_isPunctuation mark false
  · rw [List.reverse_append, List.reverse_singleton, List.singleton_append, skipBlank_cons visible]
    simpa using different

/-- Behind the last letter of a keyword and white space. -/
theorem opensName_of_space {letter space : Char} (suffix : (letter :: space :: rest) <:+ text)
    (visible : isBlank letter = false) (different : letter ≠ '?')
    (blank : isBlank space = true) : OpensName text rest := by
  rcases suffix with ⟨before, rfl⟩
  refine ⟨before ++ [letter, space], by simp, ?_, ?_⟩
  · simpa using belongsToName_false_of_isBlank blank
  · have skipped : skipBlank (before ++ [letter, space]).reverse = letter :: before.reverse := by
      rw [List.reverse_append]
      exact Skips.skipBlank_cons (.cons blank (.refl _)) visible
    rw [skipped]
    simpa using different

/-! ## Phrases leave the end of their text -/

theorem Skips.isSuffix (skips : Skips text rest) : rest <:+ text := by
  rcases skips with ⟨blank, -, rfl⟩
  exact List.suffix_append blank rest

theorem Skips.isSuffix_tail (skips : Skips text (character :: rest)) : rest <:+ text :=
  (List.suffix_cons character rest).trans skips.isSuffix

theorem NameAt.isSuffix {name : List Char} (here : NameAt text name rest) : rest <:+ text := by
  rw [here.split]
  exact List.suffix_append name rest

theorem Skips.isSuffix_word {word : List Char} {space : Char}
    (skips : Skips text (word ++ space :: rest)) : rest <:+ text :=
  ((List.suffix_cons space rest).trans (List.suffix_append word _)).trans skips.isSuffix

theorem Derives.isSuffix {names : String → Meaning → Prop} {phrase : Phrase}
    (derived : Derives names phrase text rest) : rest <:+ text := by
  induction derived with
  | bare skips here _ => exact here.isSuffix.trans skips.isSuffix
  | applied skips here _ opened _ closed inside =>
      exact closed.isSuffix_tail.trans (inside.trans (opened.isSuffix_tail.trans
        (here.isSuffix.trans skips.isSuffix)))
  | array _ opened closed component =>
      exact closed.isSuffix_tail.trans (opened.isSuffix_tail.trans component)
  | reference _ _ type => exact type
  | unbounded mark => exact mark.isSuffix_tail
  | extendsBound mark word _ _ _ bound | superBound mark word _ _ _ bound =>
      exact bound.trans (word.isSuffix_word.trans mark.isSuffix_tail)
  | last _ argument => exact argument
  | more _ comma _ argument arguments =>
      exact arguments.trans (comma.isSuffix_tail.trans argument)

/-! ## Reading under other meanings -/

/-- A derivation asks for the meanings of mentioned names alone. -/
theorem Derives.of_mentions {names others : String → Meaning → Prop}
    (agree : ∀ name meaning, Mentions whole name → names name meaning → others name meaning)
    {phrase : Phrase} (derived : Derives names phrase text rest) :
    OpensName whole text → Derives others phrase text rest := by
  have meant : ∀ {start name rest : List Char} {meaning : Meaning}, OpensName whole start →
      NameAt start name rest → names (String.ofList name) meaning →
      others (String.ofList name) meaning := by
    intro start name rest meaning opens here named
    exact agree _ _ ⟨start, rest, opens, by rwa [String.toList_ofList]⟩ named
  induction derived with
  | bare skips here named =>
      intro opens
      exact .bare skips here (meant (opens.skips skips) here named)
  | applied skips here named opened _ closed inside =>
      intro opens
      have begins := opens.skips skips
      have bracket := opened.isSuffix.trans (here.isSuffix.trans begins.isSuffix)
      exact .applied skips here (meant begins here named) opened
        (inside (opensName_of_mark bracket (by decide) (by decide) (by decide))) closed
  | array _ opened closed component =>
      intro opens
      exact .array (component opens) opened closed
  | reference _ different type =>
      intro opens
      exact .reference (type opens) different
  | unbounded mark =>
      intro _
      exact .unbounded mark
  | extendsBound mark word blank _ different bound =>
      intro opens
      have keyword := word.isSuffix.trans (mark.isSuffix_tail.trans opens.isSuffix)
      have letter := (List.suffix_append "extend".toList _).trans keyword
      exact .extendsBound mark word blank
        (bound (opensName_of_space letter (by decide) (by decide) blank)) different
  | superBound mark word blank _ different bound =>
      intro opens
      have keyword := word.isSuffix.trans (mark.isSuffix_tail.trans opens.isSuffix)
      have letter := (List.suffix_append "supe".toList _).trans keyword
      exact .superBound mark word blank
        (bound (opensName_of_space letter (by decide) (by decide) blank)) different
  | last _ argument =>
      intro opens
      exact .last (argument opens)
  | more first comma _ argument arguments =>
      intro opens
      have separator := comma.isSuffix.trans (first.isSuffix.trans opens.isSuffix)
      exact .more (argument opens) comma
        (arguments (opensName_of_mark separator (by decide) (by decide) (by decide)))

section

variable {left right : Registry} {scope : Scope}

theorem Scope.meaning?_congr {name : String} (same : right.lookup? name = left.lookup? name) :
    scope.meaning? right name = scope.meaning? left name := by
  rw [Scope.meaning?, Scope.meaning?, same]

/-- A text is read in the same way where its names are found under the same ids. -/
theorem parse_of_mentions {text : String} {type : DeclaredType}
    (same : ∀ name, Mentions text.toList name → right.lookup? name = left.lookup? name)
    (read : parse left scope text = .ok type) : parse right scope text = .ok type := by
  rcases parse_eq_ok_iff.mp read with ⟨⟨rest, derived, skips⟩, shallow⟩
  refine parse_eq_ok_iff.mpr ⟨⟨rest, ?_, skips⟩, shallow⟩
  refine derived.of_mentions ?_ (opensName_refl text.toList)
  intro name meaning mentioned named
  rw [Scope.names_iff, Scope.meaning?_congr (same name mentioned)]
  exact Scope.names_iff.mp named

/-- Any text has the same outcome where all names are found under the same ids. -/
theorem parse_congr (same : ∀ name, right.lookup? name = left.lookup? name) (scope : Scope)
    (text : String) : parse right scope text = parse left scope text := by
  have meanings : scope.meaning? right = scope.meaning? left :=
    funext fun name => Scope.meaning?_congr (same name)
  rw [parse, parse, meanings]

end

end FieldTypes.Expression
