import Calculator.Proofs.Lexer.Cut

/-!
# Lexing texts in a row

Lexing goes from the left and never looks back, and it looks ahead no further than the run of digits
and points at the cursor. So texts in a row are lexed one after the other, unless a number runs from
one into the next (`tokenize_append_of_apart`), and a lexer whose cursor is moved hands out what the
text behind it holds, wherever the cursor was put (`Lexer.tokens_seek`). Positions and failures move
along; what a failure says does not change.

`tokenize_append_and_seek` has both.
-/

namespace Calculator

/-- A source on which the lexer does not fail has its tokens, and then the end of the input. -/
lemma tokenize_eq_filter {source : String} (h : (tokenize source).2 = none) :
    tokenize source =
      ((tokenize source).1.filter (fun token => !token.isEnd) ++ [⟨.endOfInput, source.length⟩],
        none) := by
  rw [tokenize_eq_tokensAt] at h ⊢
  obtain ⟨tokens, notEnd, hend | ⟨fault, hfault⟩⟩ := tokensAt_cases 0 source.toList
  · have kept : tokens.filter (fun token => !token.isEnd) = tokens :=
      List.filter_eq_self.mpr fun token htoken => by rw [notEnd token htoken]; rfl
    have dropped :
        [(⟨.endOfInput, source.length⟩ : Token)].filter (fun token => !token.isEnd) = [] :=
      rfl
    rw [Nat.zero_add, String.length_toList] at hend
    rw [hend, List.filter_append, kept, dropped, List.append_nil]
  · rw [hfault] at h
    cases h

/-- **Texts in a row are lexed one after the other**, if no number runs across. -/
lemma tokenize_append_of_apart {first second : String} (h : (tokenize first).2 = none)
    (apart : Apart first.toList second.toList) :
    tokenize (first ++ second) =
      ((tokenize first).1.filter (fun token => !token.isEnd) ++
          (tokenize second).1.map (Token.shift first.length),
        (tokenize second).2.map (Fault.shift first.length)) := by
  have front : tokensAt 0 first.toList =
      ((tokenize first).1.filter (fun token => !token.isEnd) ++ [⟨.endOfInput, first.length⟩],
        none) := by
    rw [← tokenize_eq_tokensAt]
    exact tokenize_eq_filter h
  rw [tokenize_eq_tokensAt (first ++ second), String.toList_append, tokensAt_append front apart,
    tokensAt_add, String.length_toList, ← tokenize_eq_tokensAt]

/-- **A lexer whose cursor is moved hands out what the text behind it holds**, further on. -/
lemma Lexer.tokens_seek (l : Lexer) {pos : Nat} (inside : pos ≤ l.source.length) :
    (l.seek pos).tokens =
      ((tokenize (String.ofList (l.source.toList.drop pos))).1.map (Token.shift pos),
        (tokenize (String.ofList (l.source.toList.drop pos))).2.map (Fault.shift pos)) := by
  have start : min (l.seek pos).pos (l.seek pos).source.length = 0 + pos := by
    rw [Nat.zero_add]
    exact Nat.min_eq_left inside
  have rest : (l.seek pos).rest = l.source.toList.drop pos := rfl
  rw [tokens_eq_tokensAt, start, rest, tokensAt_add, tokenize_eq_tokensAt, String.toList_ofList]

/-- **Lexing respects concatenation.** Where the lexer does not fail on a text, and a digit or a
point does not both end it and begin the next one, the two in a row have the tokens of the first
without its end and then those of the second, further on by the length of the first; and they fail
where the second does, for the same cause. A lexer that is moved to a position of its source hands
out the tokens of the text from there on, further on by that position. -/
theorem tokenize_append_and_seek :
    (∀ first second : String, (tokenize first).2 = none → Apart first.toList second.toList →
      tokenize (first ++ second) =
        ((tokenize first).1.filter (fun token => !token.isEnd) ++
            (tokenize second).1.map (Token.shift first.length),
          (tokenize second).2.map (Fault.shift first.length))) ∧
      ∀ (l : Lexer) (pos : Nat), pos ≤ l.source.length →
        (l.seek pos).tokens =
          ((tokenize (String.ofList (l.source.toList.drop pos))).1.map (Token.shift pos),
            (tokenize (String.ofList (l.source.toList.drop pos))).2.map (Fault.shift pos)) :=
  ⟨fun _ _ h apart => tokenize_append_of_apart h apart, fun l _ inside => l.tokens_seek inside⟩

/-- A number that begins with a point is lexed behind a number and a blank, and what fails behind it
fails further on. A number that the cursor is moved into is read from there on. -/
theorem tokenize_append_and_seek_numbers :
    (tokenize "2 ").2 = none ∧ Apart "2 ".toList ".5$".toList ∧
      tokenize ("2 " ++ ".5$") =
        ([⟨.number (.ofDecimal false ⟨2, 0⟩), 0⟩, ⟨.number (.ofDecimal false ⟨5, -1⟩), 2⟩],
          some ⟨.unknownCharacter '$', 4⟩) ∧
      1 ≤ (Lexer.ofSource "12").source.length ∧
        ((Lexer.ofSource "12").seek 1).tokens =
          ([⟨.number (.ofDecimal false ⟨2, 0⟩), 1⟩, ⟨.endOfInput, 2⟩], none) := by
  have scanBlank : scan ['2', ' '] = .lexeme 0 ['2'] [' '] := rfl
  have scanPoint : scan ['.', '5', '$'] = .lexeme 0 ['.', '5'] ['$'] := rfl
  have scanForeign : scan ['$'] = .lexeme 0 ['$'] [] := rfl
  have front : tokenize "2 " =
      ([⟨.number (.ofDecimal false ⟨2, 0⟩), 0⟩, ⟨.endOfInput, 2⟩], none) := by
    refine (tokenize_eq_tokensAt _).trans ((tokensAt_of_symbol scanBlank rfl 0).trans ?_)
    rw [tokensAt_of_finished rfl]
    rfl
  have back : tokenize ".5$" =
      ([⟨.number (.ofDecimal false ⟨5, -1⟩), 0⟩], some ⟨.unknownCharacter '$', 2⟩) := by
    refine (tokenize_eq_tokensAt _).trans ((tokensAt_of_symbol scanPoint rfl 0).trans ?_)
    rw [tokensAt_of_fault scanForeign rfl]
    rfl
  have digit : tokenize "2" =
      ([⟨.number (.ofDecimal false ⟨2, 0⟩), 0⟩, ⟨.endOfInput, 1⟩], none) :=
    tokenize_numeral rfl (List.all_eq_true.mp rfl)
  have apart : Apart "2 ".toList ".5$".toList := Or.inl rfl
  have inside : 1 ≤ (Lexer.ofSource "12").source.length := by decide
  refine ⟨by rw [front], apart, ?_, inside, ?_⟩
  · rw [tokenize_append_and_seek.1 _ _ (by rw [front]) apart, front, back]
    rfl
  · have behind : String.ofList ((Lexer.ofSource "12").source.toList.drop 1) = "2" := rfl
    rw [tokenize_append_and_seek.2 _ 1 inside, behind, digit]
    rfl

end Calculator
