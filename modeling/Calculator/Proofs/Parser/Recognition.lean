import Calculator.Proofs.Parser.Rules

/-!
# The parser recognises the grammar

* **Soundness** (`Parser.read_sound`): a rule that succeeds has consumed symbols that derive its tree,
  within the nesting that was left, and stops before a symbol at which its phrase could not go on.
* **Completeness** (`Parser.read_complete`): where symbols ahead derive a tree within the nesting that
  is left, and the next symbol behind them is none at which the phrase goes on, the rule reads exactly
  them.

Both are about any parser state, with groups open or not. A parser that starts on a source gives
`parseExpr_eq_ok_iff_derives`, the whole language of the parser in terms of the grammar.
-/

namespace Calculator

namespace Parser

/-! ## Soundness -/

/-- How many groups a parser can still open. -/
def room (p : Parser) : Int :=
  max 0 (maxNesting - p.nesting)

/-- What a successful rule did: the tokens that it took off what lay ahead, and the state behind it.
-/
structure Took (phrase : Phrase) (p : Parser) (taken : List Token) (tree : Expr) (q : Parser) :
    Prop where
  /-- The tokens were ahead, and what follows them is ahead now. -/
  ahead : p.ahead = (taken ++ q.ahead.1, q.ahead.2)
  /-- They are the phrase, and the tree is theirs. -/
  derives : Derives phrase (taken.map Token.symbol) tree
  /-- No beginning of them opens more groups than were left. -/
  nests : NestsWithin p.room (taken.map Token.symbol)
  /-- As many groups are open as before. -/
  nesting : q.nesting = p.nesting
  /-- Trailing tokens are handled as before. -/
  allowTrailing : q.allowTrailing = p.allowTrailing
  /-- The phrase could not have gone on. -/
  stops : phrase.continues q.current.symbol = false

/-- What the loop over the rest of a chain did: the links that it took. -/
structure TookLinks (level : Level) (left : Expr) (p : Parser) (links : List Link)
    (taken : List Token) (tree : Expr) (q : Parser) : Prop where
  /-- The tokens were ahead, and what follows them is ahead now. -/
  ahead : p.ahead = (taken ++ q.ahead.1, q.ahead.2)
  /-- They are the symbols of the links. -/
  written : taken.map Token.symbol = links.flatMap Link.symbols
  /-- The tree is the fold of the links. -/
  tree_eq : tree = links.foldl Link.attach left
  /-- The operators of the links are of the level. -/
  levels : ∀ link ∈ links, link.op.level = level
  /-- The operands of the links are operands of the level. -/
  operands : ∀ link ∈ links, Derives level.operand link.written link.operand
  /-- No beginning of them opens more groups than were left. -/
  nests : NestsWithin p.room (taken.map Token.symbol)
  /-- As many groups are open as before. -/
  nesting : q.nesting = p.nesting
  /-- Trailing tokens are handled as before. -/
  allowTrailing : q.allowTrailing = p.allowTrailing
  /-- The chain could not have gone on. -/
  stops : (Phrase.chain level).continues q.current.symbol = false

/-- There is never less than no room. -/
lemma room_nonneg (p : Parser) : 0 ≤ p.room :=
  Int.le_max_left ..

/-- Room depends on the number of open groups only. -/
lemma room_congr {p q : Parser} (h : q.nesting = p.nesting) : q.room = p.room := by
  rw [room, room, h]

/-- An open group leaves room for one fewer. -/
lemma room_of_opened {p q : Parser} (h : q.nesting = p.nesting + 1) (hroom : 1 ≤ p.room) :
    q.room = p.room - 1 := by
  simp only [room] at *
  omega

/-- There is room for a group as long as the limit is not reached. -/
lemma one_le_room_iff {p : Parser} : 1 ≤ p.room ↔ p.nesting < maxNesting := by
  simp only [room]
  omega

/-- An operator is followed by an operand, which opens groups in the room that is left. -/
lemma nestsWithin_link {limit : Int} {op : Operator} {written : List Symbol} (h : 0 ≤ limit) :
    NestsWithin limit (.operator op :: written) ↔ NestsWithin limit written := by
  rw [nestsWithin_cons_iff, unclosed_operator, Int.sub_zero]
  simp [h]

/-- The current token, if it is an operator of the level, is consumed as that operator. -/
lemma symbol_of_operatorAt? {p : Parser} {level : Level} {op : Operator}
    (h : p.operatorAt? level = some op) :
    p.current.symbol = .operator op ∧ op.level = level := by
  unfold operatorAt? Symbol.operatorAt? at h
  split at h
  · rename_i op' hsymbol
    split at h <;> cases h
    rename_i hlevel
    exact ⟨hsymbol, hlevel⟩
  · cases h

/-- A number is a factor. -/
lemma Took.number {p q : Parser} {value : Binary64} (hsymbol : p.current.symbol = .number value)
    (hadvance : p.advance = .ok q) : Took .factor p [p.current] (.leaf value) q where
  ahead := ahead_of_advance hadvance (by simp [Token.isEnd, hsymbol])
  derives := by
    rw [List.map_singleton, hsymbol]
    exact .number value
  nests := by
    rw [List.map_singleton, hsymbol, nestsWithin_cons_iff, unclosed_number]
    simp [p.room_nonneg]
  nesting := nesting_of_advance hadvance
  allowTrailing := allowTrailing_of_advance hadvance
  stops := rfl

/-- An expression between parentheses is a factor. The one that opens it takes one from the room, so
there is room for what is inside. -/
lemma Took.group {p q r s : Parser} {inner : List Token} {tree : Expr}
    (hopen : p.current.symbol = .leftParen) (hroom : p.nesting < maxNesting)
    (hadvance : advance { p with nesting := p.nesting + 1 } = .ok q)
    (hinner : Took .expression q inner tree r) (hclose : r.current.symbol = .rightParen)
    (hadvance' : r.advance = .ok s) :
    Took .factor p (p.current :: inner ++ [r.current]) tree
      { s with nesting := s.nesting - 1 } where
  ahead := by
    have first : p.ahead = p.current.followedBy q.ahead :=
      ahead_of_advance (p := { p with nesting := p.nesting + 1 }) hadvance
        (by simp [Token.isEnd, hopen])
    have last : r.ahead = r.current.followedBy s.ahead :=
      ahead_of_advance hadvance' (by simp [Token.isEnd, hclose])
    simp [first, hinner.ahead, last, Token.followedBy]
  derives := by
    simpa [hopen, hclose] using Derives.group hinner.derives
  nests := by
    have atLeast : 1 ≤ p.room := one_le_room_iff.mpr hroom
    have nests := hinner.nests
    rw [room_of_opened (nesting_of_advance hadvance) atLeast] at nests
    have closed := hinner.derives.unclosed_eq_zero
    rw [List.map_append, List.map_cons, List.map_singleton, hopen, hclose, List.cons_append,
      nestsWithin_cons_iff, unclosed_leftParen, nestsWithin_append_iff, closed,
      nestsWithin_cons_iff, unclosed_rightParen, nestsWithin_nil]
    refine ⟨⟨by omega, by omega⟩, nests, ⟨by omega, by omega⟩, by omega⟩
  nesting := by
    have opened : q.nesting = p.nesting + 1 := nesting_of_advance hadvance
    have kept : r.nesting = q.nesting := hinner.nesting
    have closed : s.nesting = r.nesting := nesting_of_advance hadvance'
    show s.nesting - 1 = p.nesting
    omega
  allowTrailing := by
    have opened : q.allowTrailing = p.allowTrailing :=
      allowTrailing_of_advance (p := { p with nesting := p.nesting + 1 }) hadvance
    exact (allowTrailing_of_advance hadvance').trans (hinner.allowTrailing.trans opened)
  stops := rfl

/-- An operand and the links behind it are a chain. -/
lemma Took.chain {level : Level} {p q r : Parser} {links : List Link} {first rest : List Token}
    {left tree : Expr} (hfirst : Took level.operand p first left q)
    (hrest : TookLinks level left q links rest tree r) :
    Took (.chain level) p (first ++ rest) tree r where
  ahead := by rw [hfirst.ahead, hrest.ahead, List.append_assoc]
  derives := by
    rw [List.map_append, hrest.written, hrest.tree_eq]
    exact .chain hfirst.derives hrest.levels hrest.operands
  nests := by
    rw [List.map_append, nestsWithin_append_iff, hfirst.derives.unclosed_eq_zero, Int.sub_zero]
    exact ⟨hfirst.nests, room_congr hfirst.nesting ▸ hrest.nests⟩
  nesting := hrest.nesting.trans hfirst.nesting
  allowTrailing := hrest.allowTrailing.trans hfirst.allowTrailing
  stops := hrest.stops

/-- Where neither the last operand nor the level goes on, no link is taken. -/
lemma TookLinks.nil {level : Level} {left : Expr} {p : Parser} (hop : p.operatorAt? level = none)
    (hstop : level.operand.continues p.current.symbol = false) :
    TookLinks level left p [] [] left p where
  ahead := by simp
  written := rfl
  tree_eq := rfl
  levels := by simp
  operands := by simp
  nests := by simp [p.room_nonneg]
  nesting := rfl
  allowTrailing := rfl
  stops := by
    rw [Phrase.continues_chain, hstop, Bool.or_false]
    unfold operatorAt? at hop
    rw [hop]
    rfl

/-- An operator of the level, an operand and further links are links. -/
lemma TookLinks.cons {level : Level} {left right tree : Expr} {p q r s : Parser} {op : Operator}
    {links : List Link} {operand rest : List Token} (hop : p.operatorAt? level = some op)
    (hadvance : p.advance = .ok q) (hright : Took level.operand q operand right r)
    (hrest : TookLinks level (.node op left right) r links rest tree s) :
    TookLinks level left p (⟨op, operand.map Token.symbol, right⟩ :: links)
      (p.current :: operand ++ rest) tree s where
  ahead := by
    have first : p.ahead = p.current.followedBy q.ahead :=
      ahead_of_advance hadvance (isEnd_eq_false_of_operatorAt? hop)
    simp [first, hright.ahead, hrest.ahead, Token.followedBy]
  written := by
    simp [(symbol_of_operatorAt? hop).1, hrest.written, Link.symbols]
  tree_eq := hrest.tree_eq
  levels := by
    simpa [(symbol_of_operatorAt? hop).2] using hrest.levels
  operands := by
    simpa [hright.derives] using hrest.operands
  nests := by
    have room : q.room = p.room := room_congr (nesting_of_advance hadvance)
    have room' : r.room = p.room := (room_congr hright.nesting).trans room
    rw [List.map_append, List.map_cons, (symbol_of_operatorAt? hop).1, List.cons_append,
      nestsWithin_link p.room_nonneg, nestsWithin_append_iff, hright.derives.unclosed_eq_zero,
      Int.sub_zero]
    exact ⟨room ▸ hright.nests, room' ▸ hrest.nests⟩
  nesting := hrest.nesting.trans (hright.nesting.trans (nesting_of_advance hadvance))
  allowTrailing :=
    hrest.allowTrailing.trans (hright.allowTrailing.trans (allowTrailing_of_advance hadvance))
  stops := hrest.stops

/-- What the rule for a phrase takes is the phrase. -/
def Sound (phrase : Phrase) (p : Parser) : Prop :=
  ∀ tree q, read phrase p = .ok (tree, q) → ∃ taken, Took phrase p taken tree q

/-- What the loop over the rest of a chain takes is links, where the operand before them has ended. -/
def SoundMore (level : Level) (left : Expr) (p : Parser) : Prop :=
  level.operand.continues p.current.symbol = false → ∀ tree q, more level left p = .ok (tree, q) →
    ∃ links taken, TookLinks level left p links taken tree q

/-- The rule for a factor is sound, if the rule for the expression inside a group is. -/
lemma sound_factor (p : Parser)
    (inner : ∀ q, p.current.symbol = .leftParen → advance { p with nesting := p.nesting + 1 } = .ok q →
      Sound .expression q) : Sound .factor p := by
  intro tree q h
  rw [read, factor_eq] at h
  split at h
  · rename_i value hsymbol
    split at h <;> cases h
    rename_i hadvance
    exact ⟨_, .number hsymbol hadvance⟩
  · rename_i hopen
    by_cases hfull : maxNesting ≤ p.nesting
    · rw [if_pos hfull] at h
      cases h
    · rw [if_neg hfull] at h
      split at h
      · cases h
      · rename_i q' hadvance
        split at h
        · cases h
        · rename_i tree' r hexpression
          by_cases hclose : r.current.symbol = .rightParen
          · rw [if_pos hclose] at h
            split at h <;> cases h
            rename_i hadvance'
            obtain ⟨taken, htaken⟩ := inner q' hopen hadvance tree r hexpression
            exact ⟨_, .group hopen (by omega) hadvance htaken hclose hadvance'⟩
          · rw [if_neg hclose] at h
            cases h
  · cases h

/-- The rule for a chain is sound, if the rule for its operands and the loop behind the first one
are. -/
lemma sound_chain (level : Level) (p : Parser) (operand : Sound level.operand p)
    (links : ∀ first q, read level.operand p = .ok (first, q) → SoundMore level first q) :
    Sound (.chain level) p := by
  intro tree q h
  rw [read_chain] at h
  split at h
  · cases h
  · rename_i left r hfirst
    obtain ⟨first, tookFirst⟩ := operand left r hfirst
    obtain ⟨_, rest, tookRest⟩ := links left r hfirst tookFirst.stops tree q h
    exact ⟨_, tookFirst.chain tookRest⟩

/-- The loop over the rest of a chain is sound, if the operand of the next link and the loop behind it
are. -/
lemma soundMore (level : Level) (left : Expr) (p : Parser)
    (link : ∀ op q, p.operatorAt? level = some op → p.advance = .ok q →
      Sound level.operand q ∧
        ∀ right r, read level.operand q = .ok (right, r) →
          SoundMore level (.node op left right) r) : SoundMore level left p := by
  intro hstop tree q h
  rw [more_eq] at h
  split at h
  · rename_i hop
    cases h
    exact ⟨[], [], .nil hop hstop⟩
  · rename_i op hop
    split at h
    · cases h
    · rename_i r hadvance
      rw [operandOf_eq_read] at h
      obtain ⟨operand, further⟩ := link op r hop hadvance
      split at h
      · cases h
      · rename_i right s hright
        obtain ⟨taken, tookRight⟩ := operand right s hright
        obtain ⟨links, rest, tookRest⟩ := further right s hright tookRight.stops tree q h
        exact ⟨_, _, .cons hop hadvance tookRight tookRest⟩

/-- **Soundness of the rules**: a rule that succeeds has taken tokens that derive its tree, within the
room that it had, and stops where its phrase could not go on. -/
theorem read_sound {phrase : Phrase} {p q : Parser} {tree : Expr}
    (h : read phrase p = .ok (tree, q)) : ∃ taken, Took phrase p taken tree q :=
  (rules_induction sound_factor sound_chain soundMore).1 phrase p tree q h

/-! ## Completeness -/

/-- The rule for a phrase reads the symbols as the tree, from any state that has them ahead and room
for them, where the phrase cannot go on behind them. -/
def Reads (phrase : Phrase) (symbols : List Symbol) (tree : Expr) : Prop :=
  ∀ (p : Parser) (taken rest : List Token) (fault : Option Fault),
    taken.map Token.symbol = symbols → p.ahead = (taken ++ rest, fault) → rest ≠ [] →
      phrase.EndsBefore (rest.map Token.symbol) → NestsWithin p.room symbols →
        ∃ q, read phrase p = .ok (tree, q) ∧ q.ahead = (rest, fault)

/-- A number is read. -/
lemma reads_number (value : Binary64) : Reads .factor [.number value] (.leaf value) := by
  intro p taken rest fault hsymbols hahead notLast ends nests
  obtain ⟨token, rfl, hsymbol⟩ := List.map_eq_singleton_iff.mp hsymbols
  obtain ⟨q, hadvance, hq⟩ := exists_advance hahead notLast
  refine ⟨q, ?_, hq⟩
  rw [read, factor_eq, current_of_ahead hahead, hsymbol]
  simp only [hadvance]

/-- An expression that is read is read between parentheses too. -/
lemma reads_group {written : List Symbol} {tree : Expr} (h : Reads .expression written tree) :
    Reads .factor (.leftParen :: written ++ [.rightParen]) tree := by
  intro p taken rest fault hsymbols hahead notLast ends nests
  rw [List.cons_append, nestsWithin_cons_iff, unclosed_leftParen, nestsWithin_append_iff] at nests
  obtain ⟨⟨-, hroom⟩, inside, -⟩ := nests
  rw [List.cons_append] at hsymbols
  obtain ⟨first, tail, rfl, hopen, htail⟩ := List.map_eq_cons_iff.mp hsymbols
  obtain ⟨inner, last, rfl, hinner, hlast⟩ := List.map_eq_append_iff.mp htail
  obtain ⟨close, rfl, hclose⟩ := List.map_eq_singleton_iff.mp hlast
  have hopened : ahead { p with nesting := p.nesting + 1 } =
      (first :: (inner ++ close :: rest), fault) := by
    simpa using hahead
  obtain ⟨q, hadvance, hq⟩ := exists_advance hopened (by simp)
  rw [← room_of_opened (nesting_of_advance hadvance) hroom] at inside
  obtain ⟨r, hread, hr⟩ := h q inner (close :: rest) fault hinner hq (by simp)
    (by simpa [hclose] using Phrase.endsBefore_rightParen _ _) inside
  obtain ⟨s, hadvance', hs⟩ := exists_advance hr notLast
  refine ⟨{ s with nesting := s.nesting - 1 }, ?_, hs⟩
  have notFull : ¬ maxNesting ≤ p.nesting := by
    rw [one_le_room_iff] at hroom
    omega
  have hexpression : q.expression = .ok (tree, r) := hread
  have hfirst : p.current.symbol = .leftParen := by rw [current_of_ahead hahead, hopen]
  have hlast : r.current.symbol = .rightParen := by rw [current_of_ahead hr, hclose]
  rw [read, factor_eq, hfirst]
  simp only [notFull, if_false, hadvance, hexpression, hlast, if_true, hadvance']

/-- Where the chain may end, the loop over its rest takes nothing. -/
lemma more_of_end {level : Level} {p : Parser} {rest : List Token} {fault : Option Fault}
    (hahead : p.ahead = (rest, fault)) (notLast : rest ≠ [])
    (ends : (Phrase.chain level).EndsBefore (rest.map Token.symbol)) (left : Expr) :
    more level left p = .ok (left, p) := by
  obtain ⟨next, later, rfl⟩ := List.exists_cons_of_ne_nil notLast
  have stops := ends next.symbol rfl
  rw [Phrase.continues_chain, Bool.or_eq_false_iff] at stops
  have hnone : p.operatorAt? level = none := by
    rw [operatorAt?, current_of_ahead hahead]
    exact Option.isSome_eq_false_iff.mp stops.1 |> Option.isNone_iff_eq_none.mp
  rw [more_eq, hnone]

/-- A link whose operand is read is taken by the loop, which goes on behind it with the same room. -/
lemma more_of_link {level : Level} {link : Link} (hlevel : link.op.level = level)
    (operand : Reads level.operand link.written link.operand) {p : Parser}
    {taken behind : List Token} {fault : Option Fault}
    (hsymbols : taken.map Token.symbol = link.symbols) (hahead : p.ahead = (taken ++ behind, fault))
    (notLast : behind ≠ []) (ends : level.operand.EndsBefore (behind.map Token.symbol))
    (nests : NestsWithin p.room link.written) (left : Expr) :
    ∃ q, more level left p = more level (Link.attach left link) q ∧ q.ahead = (behind, fault) ∧
      q.room = p.room := by
  obtain ⟨first, inner, rfl, hop, hinner⟩ := List.map_eq_cons_iff.mp hsymbols
  rw [List.cons_append] at hahead
  obtain ⟨q, hadvance, hq⟩ := exists_advance hahead (by simp [notLast])
  have roomQ : q.room = p.room := room_congr (nesting_of_advance hadvance)
  obtain ⟨r, hread, hr⟩ := operand q inner behind fault hinner hq notLast ends (roomQ ▸ nests)
  obtain ⟨_, took⟩ := read_sound hread
  refine ⟨r, ?_, hr, (room_congr took.nesting).trans roomQ⟩
  have hsome : p.operatorAt? level = some link.op := by
    rw [operatorAt?, current_of_ahead hahead, hop, Symbol.operatorAt?, if_pos hlevel]
  rw [more_eq]
  simp only [hsome, hadvance, operandOf_eq_read, hread]
  rfl

/-- Links whose operands are read are read. -/
lemma more_of_links {level : Level} {links : List Link}
    (levels : ∀ link ∈ links, link.op.level = level)
    (operands : ∀ link ∈ links, Reads level.operand link.written link.operand)
    (closed : ∀ link ∈ links, unclosed link.written = 0) :
    ∀ (left : Expr) (p : Parser) (taken rest : List Token) (fault : Option Fault),
      taken.map Token.symbol = links.flatMap Link.symbols → p.ahead = (taken ++ rest, fault) →
        rest ≠ [] → (Phrase.chain level).EndsBefore (rest.map Token.symbol) →
          NestsWithin p.room (links.flatMap Link.symbols) →
            ∃ q, more level left p = .ok (links.foldl Link.attach left, q) ∧
              q.ahead = (rest, fault) := by
  induction links with
  | nil =>
      intro left p taken rest fault hsymbols hahead notLast ends nests
      rw [List.flatMap_nil, List.map_eq_nil_iff] at hsymbols
      subst hsymbols
      exact ⟨p, more_of_end hahead notLast ends left, hahead⟩
  | cons link links ih =>
      intro left p taken rest fault hsymbols hahead notLast ends nests
      have levelsTail : ∀ l ∈ links, l.op.level = level := fun l hl => levels l (by simp [hl])
      rw [List.flatMap_cons] at hsymbols nests
      obtain ⟨first, others, rfl, hfirst, hothers⟩ := List.map_eq_append_iff.mp hsymbols
      rw [List.append_assoc] at hahead
      rw [Link.symbols, List.cons_append, nestsWithin_link p.room_nonneg, nestsWithin_append_iff,
        closed link (by simp), Int.sub_zero] at nests
      have endsOperand : level.operand.EndsBefore ((others ++ rest).map Token.symbol) := by
        rw [List.map_append, hothers]
        exact ends.operand_append levelsTail
      obtain ⟨q, hmore, hq, roomQ⟩ := more_of_link (levels link (by simp))
        (operands link (by simp)) hfirst hahead (by simp [notLast]) endsOperand nests.1 left
      rw [hmore]
      exact ih levelsTail (fun l hl => operands l (by simp [hl])) (fun l hl => closed l (by simp [hl]))
        _ q others rest fault hothers hq notLast ends (roomQ ▸ nests.2)

/-- **Completeness of the rules**: symbols that derive a tree are read as it. -/
theorem read_complete {phrase : Phrase} {symbols : List Symbol} {tree : Expr}
    (h : Derives phrase symbols tree) : Reads phrase symbols tree := by
  induction h with
  | number value => exact reads_number value
  | group inner ih => exact reads_group ih
  | chain head levels operands ihHead ihOperands =>
      intro p taken rest fault hsymbols hahead notLast ends nests
      obtain ⟨first, others, rfl, hfirst, hothers⟩ := List.map_eq_append_iff.mp hsymbols
      rw [nestsWithin_append_iff, head.unclosed_eq_zero, Int.sub_zero] at nests
      rw [List.append_assoc] at hahead
      obtain ⟨q, hread, hq⟩ := ihHead p first (others ++ rest) fault hfirst hahead
        (by simp [notLast]) (by simpa [hothers] using ends.operand_append levels) nests.1
      obtain ⟨_, took⟩ := read_sound hread
      obtain ⟨r, hmore, hr⟩ := more_of_links levels ihOperands
        (fun link hlink => (operands link hlink).unclosed_eq_zero) _ q others rest fault hothers hq
        notLast ends (room_congr took.nesting ▸ nests.2)
      refine ⟨r, ?_, hr⟩
      rw [read_chain]
      simp only [hread]
      exact hmore

end Parser

/-! ## Whole sources -/

/-- A parser that starts has room for 200 groups. -/
lemma Parser.room_of_start {p : Parser} (h : p.nesting = 0) : p.room = 200 := by
  rw [room, h]
  rfl

/-- A source that is parsed is all of it a phrase, within the limit. -/
lemma derives_of_parseExpr {source : String} {tree : Expr} (h : parseExpr source false = .ok tree) :
    ∃ tokens : List Token,
      tokenize source = (tokens ++ [⟨.endOfInput, source.length⟩], none) ∧
        Derives .expression (tokens.map Token.symbol) tree ∧
          NestsWithin 200 (tokens.map Token.symbol) := by
  rw [parseExpr_eq] at h
  split at h
  · cases h
  · rename_i p hstart
    obtain ⟨hahead, hnesting, htrailing⟩ := Parser.ahead_of_start hstart
    split at h
    · cases h
    · rename_i tree' q hread
      split at h <;> cases h
      rename_i hend
      obtain ⟨taken, took⟩ := Parser.read_sound hread
      rw [took.allowTrailing, htrailing, Bool.or_false] at hend
      have whole : tokenize source = (taken ++ [q.current], none) := by
        rw [tokenize, ← hahead, took.ahead, Parser.ahead_of_isEnd hend]
      refine ⟨taken, ?_, took.derives, ?_⟩
      · rw [whole, tokenize_last whole]
      · exact Parser.room_of_start hnesting ▸ took.nests

/-- A source all of which is a phrase within the limit is parsed. -/
lemma parseExpr_of_derives {source : String} {tree : Expr} {tokens : List Token}
    (whole : tokenize source = (tokens ++ [⟨.endOfInput, source.length⟩], none))
    (hderives : Derives .expression (tokens.map Token.symbol) tree)
    (hnests : NestsWithin 200 (tokens.map Token.symbol)) : parseExpr source false = .ok tree := by
  rw [parseExpr_eq]
  cases hstart : Parser.start (.ofSource source) false with
  | error stopped =>
      obtain ⟨fault, lexer⟩ := stopped
      have none := Parser.tokens_of_start_error hstart
      rw [← tokenize, whole] at none
      simp at none
  | ok p =>
      obtain ⟨hahead, hnesting, htrailing⟩ := Parser.ahead_of_start hstart
      rw [← tokenize, whole] at hahead
      have ends : Phrase.expression.EndsBefore [.endOfInput] := by
        intro symbol hsymbol
        obtain rfl : Symbol.endOfInput = symbol := by simpa using hsymbol
        rfl
      obtain ⟨q, hread, hq⟩ := Parser.read_complete hderives p tokens _ none rfl hahead (by simp)
        ends ((Parser.room_of_start hnesting).symm ▸ hnests)
      have hend : q.current.isEnd = true := by
        rw [Parser.current_of_ahead hq]
        rfl
      simp only [hread, hend, Bool.true_or, if_true]

/-- **The parser recognises exactly the grammar**, and it is unambiguous. A source is an expression
if and only if all of it is lexed, its symbols derive a tree, and no beginning of them has more than
200 parentheses unclosed; how many parentheses it has in all does not matter. -/
theorem parseExpr_eq_ok_iff_derives :
    (∀ (source : String) (tree : Expr),
      parseExpr source false = .ok tree ↔
        ∃ tokens : List Token,
          tokenize source = (tokens ++ [⟨.endOfInput, source.length⟩], none) ∧
            Derives .expression (tokens.map Token.symbol) tree ∧
              ∀ beginning, beginning <+: tokens.map Token.symbol → unclosed beginning ≤ 200) ∧
      ∀ (symbols : List Symbol) (tree tree' : Expr),
        Derives .expression symbols tree → Derives .expression symbols tree' → tree = tree' := by
  refine ⟨fun source tree => ⟨derives_of_parseExpr, ?_⟩, fun symbols tree tree' h h' => h.unique h'⟩
  rintro ⟨tokens, whole, hderives, hnests⟩
  exact parseExpr_of_derives whole hderives hnests

/-- The tokens of a chain of divisions. -/
lemma tokenize_divisions :
    tokenize "8/4/2" = ([⟨.number (.ofDecimal false ⟨8, 0⟩), 0⟩, ⟨.operator .divide, 1⟩,
      ⟨.number (.ofDecimal false ⟨4, 0⟩), 2⟩, ⟨.operator .divide, 3⟩,
      ⟨.number (.ofDecimal false ⟨2, 0⟩), 4⟩, ⟨.endOfInput, 5⟩], none) := by
  have divide : ∀ pos text, tokensAt pos ('/' :: text) =
      Token.followedBy ⟨.operator .divide, pos⟩ (tokensAt (pos + 1) text) :=
    tokensAt_symbol (by decide) (by decide) rfl
  have digit : ∀ (c : Char) (text : List Char) (pos : Nat), isNumeralChar c = true →
      text.takeWhile isNumeralChar = [] → ∀ d, Decimal.ofNumeral? [c] = some d →
        tokensAt pos (c :: text) =
          Token.followedBy ⟨.number (.ofDecimal false d), pos⟩ (tokensAt (pos + 1) text) :=
    fun c text pos hc htext d hd => tokensAt_numeral hd (by simpa using hc) htext pos
  have characters : "8/4/2".toList = ['8', '/', '4', '/', '2'] := rfl
  rw [tokenize_eq_tokensAt, characters, digit '8' _ _ rfl rfl ⟨8, 0⟩ rfl, divide,
    digit '4' _ _ rfl rfl ⟨4, 0⟩ rfl, divide, digit '2' _ _ rfl rfl ⟨2, 0⟩ rfl,
    @tokensAt_of_finished [] rfl]
  rfl

/-- A chain of divisions is folded to the left, and no other way. -/
theorem parseExpr_divisions :
    parseExpr "8/4/2" false = .ok (.node .divide (.node .divide (.leaf (.ofDecimal false ⟨8, 0⟩))
      (.leaf (.ofDecimal false ⟨4, 0⟩))) (.leaf (.ofDecimal false ⟨2, 0⟩))) ∧
    ¬ Derives .expression [.number (.ofDecimal false ⟨8, 0⟩), .operator .divide,
        .number (.ofDecimal false ⟨4, 0⟩), .operator .divide, .number (.ofDecimal false ⟨2, 0⟩)]
      (.node .divide (.leaf (.ofDecimal false ⟨8, 0⟩)) (.node .divide
        (.leaf (.ofDecimal false ⟨4, 0⟩)) (.leaf (.ofDecimal false ⟨2, 0⟩)))) := by
  have folded : ∀ x y z : Binary64,
      Derives .expression [.number x, .operator .divide, .number y, .operator .divide, .number z]
        (.node .divide (.node .divide (.leaf x) (.leaf y)) (.leaf z)) := by
    intro x y z
    refine .single (@Derives.chain .product [.number x] (.leaf x)
      [⟨.divide, [.number y], .leaf y⟩, ⟨.divide, [.number z], .leaf z⟩] (.number x) ?_ ?_)
    · simp [Operator.level]
    · simp only [List.mem_cons, List.not_mem_nil, or_false]
      rintro link (rfl | rfl)
      · exact .number y
      · exact .number z
  constructor
  · refine (parseExpr_eq_ok_iff_derives.1 _ _).mpr
      ⟨[⟨.number _, 0⟩, ⟨.operator _, 1⟩, ⟨.number _, 2⟩, ⟨.operator _, 3⟩, ⟨.number _, 4⟩],
        tokenize_divisions, folded _ _ _, ?_⟩
    intro beginning hbeginning
    have few : beginning.count .leftParen = 0 :=
      Nat.le_zero.mp (hbeginning.sublist.count_le .leftParen)
    simp only [unclosed, few]
    omega
  · intro other
    have same := parseExpr_eq_ok_iff_derives.2 _ _ _ other (folded _ _ _)
    cases same

end Calculator
