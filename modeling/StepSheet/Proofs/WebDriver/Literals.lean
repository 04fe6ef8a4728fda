import StepSheet.WebDriver.XPath
import StepSheet.Proofs.Files.Components

/-!
# The tokens of an expression

An XPath 1.0 expression is read as tokens. A literal is delimited by quotes of one kind and ends at
the next quote of that kind, whatever stands between them. So what a locator looks for stays in
literals, and the tokens around them are the same for every text.
-/

namespace StepSheet.XPath

/-! ### Reading tokens -/

inductive Token where
  | literal (content : List Char)
  | name (text : List Char)
  | symbol (text : List Char)
deriving DecidableEq

inductive Mode where
  | between
  | inLiteral (quote : Char) (content : List Char)
  | inName (text : List Char)
  /-- Behind a symbol that may have a second character. -/
  | behind (first : Char)
deriving DecidableEq

def isSpace (c : Char) : Bool := [' ', '\t', '\r', '\n'].contains c

def startsName (c : Char) : Bool := c.isAlpha || c = '_'

def continuesName (c : Char) : Bool := startsName c || c.isDigit || c = '-' || c = '.'

/-- The symbols of one character that is in no other symbol. -/
def isSymbol (c : Char) : Bool :=
  ['(', ')', '[', ']', '@', ',', '|', '+', '-', '=', '*'].contains c

def startsSymbol (c : Char) : Bool := ['/', '.', ':', '!', '<', '>'].contains c

/-- The symbols of two characters. -/
def isPair (first second : Char) : Bool :=
  [('/', '/'), ('.', '.'), (':', ':'), ('!', '='), ('<', '='), ('>', '=')].contains (first, second)

/-- Of the characters that a symbol of two may start with, those that are symbols themselves. -/
def standsAlone (c : Char) : Bool := ['/', '.', '<', '>'].contains c

/-- What a character starts where no token is being read. -/
def start (c : Char) : Option (List Token × Mode) :=
  if isSpace c then some ([], .between)
  else if c = '\'' || c = '"' then some ([], .inLiteral c [])
  else if startsName c then some ([], .inName [c])
  else if isSymbol c then some ([.symbol [c]], .between)
  else if startsSymbol c then some ([], .behind c)
  else none

/-- What is read behind tokens. -/
def behind (tokens : List Token) (read : List Token × Mode) : List Token × Mode :=
  (tokens ++ read.1, read.2)

@[simp] theorem behind_nil : behind [] = id := rfl

theorem behind_comp (tokens more : List Token) :
    behind tokens ∘ behind more = behind (tokens ++ more) := by
  funext read
  simp [behind]

/-- The tokens that a character ends, and what is read after it. A token is as long as it can be.
Numbers, variables, and names with a prefix or with letters beyond ASCII are not read. -/
def step : Mode → Char → Option (List Token × Mode)
  | .between, c => start c
  | .inLiteral quote content, c =>
    if c = quote then some ([.literal content], .between)
    else some ([], .inLiteral quote (content ++ [c]))
  | .inName text, c =>
    if continuesName c then some ([], .inName (text ++ [c]))
    else (start c).map (behind [.name text])
  | .behind first, c =>
    if isPair first c then some ([.symbol [first, c]], .between)
    else if standsAlone first then (start c).map (behind [.symbol [first]])
    else none

def run : Mode → List Char → Option (List Token × Mode)
  | mode, [] => some ([], mode)
  | mode, c :: cs => (step mode c).bind fun read => (run read.2 cs).map (behind read.1)

/-- The tokens that the end of an expression ends. -/
def finish : Mode → Option (List Token)
  | .between => some []
  | .inLiteral _ _ => none
  | .inName text => some [.name text]
  | .behind first => if standsAlone first then some [.symbol [first]] else none

def lex (cs : List Char) : Option (List Token) :=
  (run .between cs).bind fun read => (finish read.2).map (read.1 ++ ·)

theorem run_append (mode : Mode) (cs more : List Char) :
    run mode (cs ++ more) =
      (run mode cs).bind fun read => (run read.2 more).map (behind read.1) := by
  induction cs generalizing mode with
  | nil => simp [run]
  | cons c cs ih =>
      simp only [List.cons_append, run, ih]
      cases step mode c with
      | none => rfl
      | some read =>
          rw [Option.bind_some, Option.bind_some]
          cases run read.2 cs with
          | none => rfl
          | some read' =>
              simp only [Option.map_some, Option.bind_some, Option.map_map, behind_comp]
              rfl

def Reads (cs : List Char) (tokens : List Token) : Prop := run .between cs = some (tokens, .between)

instance (cs : List Char) (tokens : List Token) : Decidable (Reads cs tokens) :=
  inferInstanceAs (Decidable (_ = _))

namespace Reads

variable {cs cs' : List Char} {tokens tokens' : List Token}

theorem nil : Reads [] [] := rfl

theorem append (first : Reads cs tokens) (rest : Reads cs' tokens') :
    Reads (cs ++ cs') (tokens ++ tokens') := by
  rw [Reads] at first rest ⊢
  simp [run_append, first, rest, behind]

theorem lex (h : Reads cs tokens) : XPath.lex cs = some tokens := by
  rw [Reads] at h
  simp [XPath.lex, h, finish]

/-- A bracket ends the token in front of it. -/
theorem of_lex (h : XPath.lex cs = some tokens) :
    Reads (cs ++ [']']) (tokens ++ [.symbol [']']]) := by
  obtain ⟨⟨read, mode⟩, run, last⟩ := Option.bind_eq_some_iff.mp h
  obtain ⟨ended, finished, rfl⟩ := Option.map_eq_some_iff.mp last
  have bracket : start ']' = some ([.symbol [']']], .between) := by decide +kernel
  have closed : step mode ']' = some (ended ++ [.symbol [']']], .between) := by
    cases mode with
    | between =>
        cases finished
        exact bracket
    | inLiteral quote content => cases finished
    | inName text =>
        cases finished
        have ends : continuesName ']' = false := by decide +kernel
        simp [step, ends, bracket, behind]
    | behind first =>
        have single : isPair first ']' = false := by simp [isPair]
        rw [finish] at finished
        split at finished
        · next alone =>
          cases finished
          simp [step, single, alone, bracket, behind]
        · cases finished
  rw [Reads, run_append, run]
  simp [XPath.run, closed, behind]

end Reads

/-! ### Literals -/

/-- A literal is read up to its quote. -/
theorem run_inLiteral {quote : Char} {cs : List Char} (h : quote ∉ cs) (content : List Char) :
    run (.inLiteral quote content) (cs ++ [quote]) =
      some ([.literal (content ++ cs)], .between) := by
  induction cs generalizing content with
  | nil => simp [run, step, behind]
  | cons c cs ih =>
      have differ : c ≠ quote := fun same => h (by simp [same])
      simp [run, step, differ, ih fun member => h (List.mem_cons_of_mem c member)]

theorem reads_single {cs : List Char} (h : '\'' ∉ cs) : Reads (single cs) [.literal cs] := by
  have opened : step .between '\'' = some ([], .inLiteral '\'' []) := by decide +kernel
  simp [Reads, single, run, opened, run_inLiteral h]

theorem reads_double {cs : List Char} (h : '"' ∉ cs) : Reads (double cs) [.literal cs] := by
  have opened : step .between '"' = some ([], .inLiteral '"' []) := by decide +kernel
  simp [Reads, double, run, opened, run_inLiteral h]

/-- Literals with commas between them. -/
def listed (contents : List (List Char)) : List Token :=
  (contents.map Token.literal).intersperse (.symbol [','])

def concat (contents : List (List Char)) : List Token :=
  [.name "concat".toList, .symbol ['(']] ++ listed contents ++ [.symbol [')']]

theorem intersperse_cons {α : Type} (sep x : α) {xs : List α} (nonempty : xs ≠ []) :
    (x :: xs).intersperse sep = x :: sep :: xs.intersperse sep := by
  cases xs with
  | nil => exact absurd rfl nonempty
  | cons => rfl

/-- The pieces of a text with apostrophes, and the apostrophes between them. -/
def contents (pieces : List (List Char)) : List (List Char) := pieces.intersperse ['\'']

theorem contents_ne_nil {pieces : List (List Char)} (nonempty : pieces ≠ []) :
    contents pieces ≠ [] := by
  have length := List.length_pos_iff.mpr nonempty
  apply List.ne_nil_of_length_pos
  rw [contents, List.length_intersperse]
  omega

theorem listed_cons (content : List Char) {more : List (List Char)} (nonempty : more ≠ []) :
    listed (content :: more) = [.literal content, .symbol [',']] ++ listed more := by
  rw [listed, List.map_cons, intersperse_cons _ _ (by simpa using nonempty)]
  rfl

theorem reads_arguments {pieces : List (List Char)} (nonempty : pieces ≠ [])
    (h : ∀ piece ∈ pieces, '\'' ∉ piece) : Reads (arguments pieces) (listed (contents pieces)) := by
  have comma : Reads [',', ' '] [.symbol [',']] := by decide +kernel
  have apostrophe : Reads (double ['\'']) [.literal ['\'']] := reads_double (by decide)
  induction pieces with
  | nil => exact absurd rfl nonempty
  | cons piece pieces ih =>
      obtain ⟨first, rest⟩ := List.forall_mem_cons.mp h
      cases pieces with
      | nil => exact reads_single first
      | cons next pieces =>
          have more := contents_ne_nil (List.cons_ne_nil next pieces)
          have text : arguments (piece :: next :: pieces) = (single piece ++ [',', ' ']) ++
              ((double ['\''] ++ [',', ' ']) ++ arguments (next :: pieces)) := by
            simp [arguments]
          rw [text, contents, intersperse_cons _ _ (by simp), ← contents, listed_cons _ (by simp),
            listed_cons _ more]
          exact ((reads_single first).append comma).append
            ((apostrophe.append comma).append (ih (by simp) rest))

/-- The pieces and the apostrophes are the whole text. -/
theorem flatten_contents (cs : List Char) : (contents (Chars.splitOn '\'' cs)).flatten = cs := by
  induction cs with
  | nil => rfl
  | cons c cs ih =>
      have nonempty := Chars.splitOn_ne_nil '\'' cs
      by_cases same : c = '\''
      · rw [Chars.splitOn, if_pos same, contents, intersperse_cons _ _ nonempty, ← contents]
        simp [ih, same]
      · obtain ⟨piece, pieces, split⟩ := List.exists_cons_of_ne_nil nonempty
        rw [split] at ih
        rw [Chars.splitOn, if_neg same, split, ← ih]
        cases pieces <;> rfl

theorem two_le_length_contents {cs : List Char} (apostrophe : '\'' ∈ cs) :
    2 ≤ (contents (Chars.splitOn '\'' cs)).length := by
  have whole := flatten_contents cs
  match pieces : Chars.splitOn '\'' cs with
  | [] => exact absurd pieces (Chars.splitOn_ne_nil _ _)
  | [piece] =>
      have single : piece = cs := by simpa [pieces, contents] using whole
      have member : piece ∈ Chars.splitOn '\'' cs := by simp [pieces]
      rw [single] at member
      exact absurd apostrophe (Chars.not_mem_of_mem_splitOn member)
  | _ :: _ :: _ =>
      rw [contents, List.length_intersperse, List.length_cons, List.length_cons]
      omega

/-! ### The value of literals -/

/-- Literals with commas between them, up to the end of a call. -/
def arguments? : List Token → Option (List (List Char))
  | [.literal content, .symbol [')']] => some [content]
  | .literal content :: .symbol [','] :: tokens => (arguments? tokens).map (content :: ·)
  | _ => none

/-- The text that a literal has, or that `concat` joins from two or more. -/
def value? : List Token → Option (List Char)
  | [.literal content] => some content
  | .name function :: .symbol ['('] :: tokens =>
    (arguments? tokens).bind fun contents =>
      if function = "concat".toList ∧ 2 ≤ contents.length then some contents.flatten else none
  | _ => none

/-- A text as a literal, or joined from literals. -/
inductive Writes (cs : List Char) : List Token → Prop where
  | plain : Writes cs [.literal cs]
  | joined (contents : List (List Char)) (many : 2 ≤ contents.length)
      (whole : contents.flatten = cs) : Writes cs (concat contents)

theorem arguments?_listed {contents : List (List Char)} (nonempty : contents ≠ []) :
    arguments? (listed contents ++ [.symbol [')']]) = some contents := by
  induction contents with
  | nil => exact absurd rfl nonempty
  | cons content contents ih =>
      by_cases last : contents = []
      · rw [last]
        rfl
      · rw [listed_cons content last]
        simp [arguments?, ih last]

theorem Writes.value? {cs : List Char} {tokens : List Token} (h : Writes cs tokens) :
    XPath.value? tokens = some cs := by
  cases h with
  | plain => rfl
  | joined contents many whole =>
      have nonempty : contents ≠ [] := List.ne_nil_of_length_pos (by omega)
      simp [concat, XPath.value?, arguments?_listed nonempty, many, whole]

/-- The expression of a text is read as the text. -/
theorem exists_writes (cs : List Char) :
    ∃ tokens, Reads (literal cs) tokens ∧ Writes cs tokens := by
  by_cases apostrophe : '\'' ∈ cs
  · by_cases quote : '"' ∈ cs
    · have text : literal cs = "concat(".toList ++ arguments (Chars.splitOn '\'' cs) ++ [')'] := by
        simp [literal, apostrophe, quote]
      have opened : Reads "concat(".toList [.name "concat".toList, .symbol ['(']] := by
        decide +kernel
      have closed : Reads [')'] [.symbol [')']] := by decide +kernel
      have pieces : Reads (arguments (Chars.splitOn '\'' cs))
          (listed (contents (Chars.splitOn '\'' cs))) :=
        reads_arguments (Chars.splitOn_ne_nil _ _) fun _ => Chars.not_mem_of_mem_splitOn
      refine ⟨_, text ▸ (opened.append pieces).append closed, ?_⟩
      exact .joined _ (two_le_length_contents apostrophe) (flatten_contents cs)
    · have text : literal cs = double cs := by simp [literal, apostrophe, quote]
      exact ⟨_, text ▸ reads_double quote, .plain⟩
  · have text : literal cs = single cs := by simp [literal, apostrophe]
    exact ⟨_, text ▸ reads_single apostrophe, .plain⟩

/-! ### What stands around the literals -/

/-- A text behind which no token is being read. -/
def IsWhole (text : String) : Prop :=
  (run .between text.toList).map Prod.snd = some .between

instance (text : String) : Decidable (IsWhole text) := inferInstanceAs (Decidable (_ = _))

theorem Reads.isWhole {text : String} {tokens : List Token} (h : Reads text.toList tokens) :
    IsWhole text := by
  rw [Reads] at h
  rw [IsWhole, h]
  rfl

theorem IsWhole.reads {text : String} (h : IsWhole text) :
    Reads text.toList ((lex text.toList).getD []) := by
  obtain ⟨⟨tokens, mode⟩, read, last⟩ := Option.map_eq_some_iff.mp h
  obtain rfl : mode = .between := last
  have whole : Reads text.toList tokens := read
  rw [whole.lex]
  exact whole

/-- A fixed part that is read as whole tokens, or the literal of a value. -/
def Part.Fits (value : String) : Part → Prop
  | .fixed text => IsWhole text
  | .literal text => text = value

@[simp] theorem Part.fits_fixed {value text : String} :
    (Part.fixed text).Fits value ↔ IsWhole text := Iff.rfl

@[simp] theorem Part.fits_literal {value text : String} :
    (Part.literal text).Fits value ↔ text = value := Iff.rfl

/-- The tokens of a part, with a place for those of its literal. -/
def Part.frame : Part → List (Option Token)
  | .fixed text => ((lex text.toList).getD []).map some
  | .literal _ => [none]

theorem Part.frame_of_reads {text : String} {tokens : List Token} (h : Reads text.toList tokens) :
    (Part.fixed text).frame = tokens.map some := by
  rw [Part.frame, h.lex]
  rfl

/-- The tokens of a frame, with tokens of a literal in its places. -/
def fill (literal : List Token) (frame : List (Option Token)) : List Token :=
  frame.flatMap fun token => token.elim literal fun token => [token]

theorem fill_append (literal : List Token) (frame more : List (Option Token)) :
    fill literal (frame ++ more) = fill literal frame ++ fill literal more := List.flatMap_append

theorem fill_map_some (literal tokens : List Token) : fill literal (tokens.map some) = tokens := by
  induction tokens with
  | nil => rfl
  | cons token tokens ih =>
      rw [List.map_cons, fill, List.flatMap_cons, ← fill, ih]
      rfl

variable {value : String} {tokens : List Token}

theorem Part.Fits.reads {part : Part} (fits : part.Fits value)
    (literal : Reads (XPath.literal value.toList) tokens) :
    Reads part.text.toList (fill tokens part.frame) := by
  cases part with
  | fixed text =>
      rw [Part.frame, fill_map_some]
      exact IsWhole.reads fits
  | literal text =>
      cases fits
      simpa [Part.text, Part.frame, fill] using literal

/-- Parts that fit are read one after the other. -/
theorem reads_text {parts : List Part} (fits : ∀ part ∈ parts, part.Fits value)
    (literal : Reads (XPath.literal value.toList) tokens) :
    Reads (text parts).toList (fill tokens (parts.flatMap Part.frame)) := by
  induction parts with
  | nil => exact .nil
  | cons part parts ih =>
      obtain ⟨first, rest⟩ := List.forall_mem_cons.mp fits
      have cut : (text (part :: parts)).toList = part.text.toList ++ (text parts).toList := by
        simp [text]
      rw [cut, List.flatMap_cons, fill_append]
      exact (first.reads literal).append (ih rest)

def namedRoles : List String :=
  ["button", "link", "textbox", "checkbox", "radio", "combobox", "heading", "img", "list",
    "listitem"]

theorem isSome_implicitRole?_iff {role : String} :
    (implicitRole? role).isSome ↔ role ∈ namedRoles := by
  unfold implicitRole?
  split <;> simp_all [namedRoles]

/-- The tokens of what stands for a role, behind those of the role itself. -/
def clauseTokens (implicit : Option String) : List Token :=
  implicit.elim [] fun clause => .name "or".toList :: (lex clause.toList).getD []

theorem reads_clause {role clause : String} (h : implicitRole? role = some clause) :
    Reads (" or " ++ clause ++ "]").toList (clauseTokens (some clause) ++ [.symbol [']']]) := by
  have read : lex clause.toList = some ((lex clause.toList).getD []) := by
    have known : (lex clause.toList).isSome := by
      unfold implicitRole? at h
      split at h <;> cases h <;> decide +kernel
    obtain ⟨tokens, read⟩ := Option.isSome_iff_exists.mp known
    rw [read]
    rfl
  have joined : Reads " or ".toList [.name "or".toList] := by decide +kernel
  have text : (" or " ++ clause ++ "]").toList = " or ".toList ++ (clause.toList ++ [']']) := by
    simp
  rw [text]
  exact joined.append (.of_lex read)

/-- The parts of the query that a strategy makes of a value, for what stands for a role. -/
def partsOf (strategy : Strategy) (implicit : Option String) (value : String) : List Part :=
  match strategy with
  | .selector => []
  | .role =>
    [.fixed "//*[@role=", .literal value,
      .fixed (implicit.elim "]" fun clause => " or " ++ clause ++ "]")]
  | .text => holding value
  | .testId => withAttribute "data-testid" value
  | .label => labelled value
  | .placeholder => withAttribute "placeholder" value
  | .altText => withAttribute "alt" value
  | .title => withAttribute "title" value

/-- What stands for the role that a value asks for. -/
def clauseOf (strategy : Strategy) (value : String) : Option String :=
  if strategy = .role then implicitRole? value else none

theorem ofLocator_eq_partsOf {strategy : Strategy} (query : strategy ≠ .selector) (value : String) :
    Query.ofLocator ⟨strategy, value⟩ =
      Query.xpath (partsOf strategy (clauseOf strategy value) value) := by
  cases strategy with
  | selector => exact absurd rfl query
  | role =>
      rw [Query.ofLocator, role, clauseOf, if_pos rfl, partsOf]
      cases implicitRole? value <;> rfl
  | _ => rfl

theorem partsOf_fits (strategy : Strategy) (value : String) :
    ∀ part ∈ partsOf strategy (clauseOf strategy value) value, part.Fits value := by
  cases strategy with
  | selector => exact List.forall_mem_nil _
  | role =>
      have opened : IsWhole "//*[@role=" := by decide +kernel
      have closed : IsWhole "]" := by decide +kernel
      rw [clauseOf, if_pos rfl, partsOf]
      cases clause : implicitRole? value with
      | none => simp [opened, closed]
      | some _ => simp [opened, (reads_clause clause).isWhole]
  | _ =>
      simp only [partsOf, holding, labelled, withAttribute, List.forall_mem_cons, List.not_mem_nil,
        false_implies, implies_true, Part.fits_fixed, Part.fits_literal, true_and, and_true]
      decide +kernel

/-- The tokens of a strategy's queries in front of those for a role, with places for literals. -/
def before : Strategy → List (Option Token)
  | .role => (Part.fixed "//*[@role=").frame ++ [none]
  | strategy => (partsOf strategy none "").flatMap Part.frame

/-- The tokens of a strategy's queries behind those for a role. -/
def after : Strategy → List (Option Token)
  | .role => [some (.symbol [']'])]
  | _ => []

/-- The frame of a query does not depend on the value, but for what stands for a role. -/
theorem frame_partsOf (strategy : Strategy) (value : String) :
    (partsOf strategy (clauseOf strategy value) value).flatMap Part.frame =
      before strategy ++ (clauseTokens (clauseOf strategy value)).map some ++ after strategy := by
  cases strategy with
  | role =>
      have closed : Reads "]".toList [.symbol [']']] := by decide +kernel
      rw [clauseOf, if_pos rfl, before, after, partsOf, List.flatMap_cons, List.flatMap_cons,
        List.flatMap_singleton, List.append_assoc, List.append_assoc, List.append_cancel_left_eq]
      cases clause : implicitRole? value with
      | none => exact congrArg (none :: ·) (Part.frame_of_reads closed)
      | some _ =>
          rw [Option.elim_some, Part.frame_of_reads (reads_clause clause), List.map_append]
          rfl
  | _ => simp [before, after, clauseOf, clauseTokens, partsOf, holding, labelled, withAttribute,
      Part.frame]

/-- The expression of a query, around the tokens of a literal. -/
theorem lex_ofLocator {strategy : Strategy} (query : strategy ≠ .selector)
    (literal : Reads (XPath.literal value.toList) tokens) :
    lex (Query.ofLocator ⟨strategy, value⟩).value.toList =
      some (fill tokens (before strategy) ++ clauseTokens (clauseOf strategy value) ++
        fill tokens (after strategy)) := by
  have reads := reads_text (partsOf_fits strategy value) literal
  rw [frame_partsOf, fill_append, fill_append, fill_map_some] at reads
  rw [ofLocator_eq_partsOf query]
  exact reads.lex

/-- Every query has a place for a literal. -/
theorem none_mem_before {strategy : Strategy} (query : strategy ≠ .selector) :
    none ∈ before strategy := by
  cases strategy with
  | selector => exact absurd rfl query
  | _ => decide +kernel

/-- Every text is written as an expression that is read as the text, in one literal or joined from
several. In a query that is not a selector it is in such literals only, at the places that the
strategy has for them: the tokens around them depend on the strategy alone, but for what stands
for one of the named roles. -/
theorem value_in_literals_only :
    (∀ value : String, ∃ tokens, lex (literal value.toList) = some tokens ∧
      Writes value.toList tokens ∧ value? tokens = some value.toList) ∧
    (∀ strategy ≠ .selector, none ∈ before strategy ∧
      ∀ value tokens, lex (literal value.toList) = some tokens →
        (Query.ofLocator ⟨strategy, value⟩).method = "xpath" ∧
        lex (Query.ofLocator ⟨strategy, value⟩).value.toList =
          some (fill tokens (before strategy) ++ clauseTokens (clauseOf strategy value) ++
            fill tokens (after strategy))) ∧
    ∀ role, (implicitRole? role).isSome ↔ role ∈ namedRoles := by
  refine ⟨?_, ?_, fun _ => isSome_implicitRole?_iff⟩
  · intro value
    obtain ⟨tokens, reads, writes⟩ := exists_writes value.toList
    exact ⟨tokens, reads.lex, writes, writes.value?⟩
  · intro strategy query
    refine ⟨none_mem_before query, fun value tokens read => ?_⟩
    obtain ⟨tokens', reads, -⟩ := exists_writes value.toList
    obtain rfl : tokens = tokens' := Option.some.inj (read.symm.trans reads.lex)
    refine ⟨?_, lex_ofLocator query reads⟩
    rw [ofLocator_eq_partsOf query]
    rfl

-- The place of the literal in the query for a title.
example :
    let front : List Token := [.symbol ['/', '/'], .symbol ['*'], .symbol ['['], .symbol ['@'],
      .name "title".toList, .symbol ['=']]
    before .title = front.map some ++ [none, some (.symbol [']'])] := by
  decide +kernel

/-- An apostrophe and a quote in a title. -/
example : (Query.ofLocator ⟨.title, "it's \""⟩).value =
    "//*[@title=concat('it', \"'\", 's \"')]" := by
  decide +kernel

end StepSheet.XPath
