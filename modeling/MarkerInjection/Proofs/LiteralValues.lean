-- Phrases that are one literal: what the rule for a value takes for a literal is one token,
-- and what it takes for more is printed with more.
import MarkerInjection.Proofs.PassedThrough
import MarkerInjection.Proofs.TagSpellings

namespace MarkerInjection.Source

/-! ## What readers give -/

/-- Whatever the reader gives is of this kind. -/
structure Gives {α : Type} (P : α → Prop) (r : Reader α) : Prop where
  gives : ∀ {i x j}, r i = .ok (x, j) → P x

section Giving

variable {α β : Type} {P : β → Prop}

theorem gives_pure {x : β} (hx : P x) : Gives P (pure x) := by
  constructor
  intro i y j h
  cases h
  exact hx

theorem gives_then {Q : α → Prop} {r : Reader α} {f : α → Reader β} (hr : Gives Q r)
    (hf : ∀ x, Q x → Gives P (f x)) : Gives P (r >>= f) := by
  constructor
  intro i y j h
  obtain ⟨x, k, hx, hy⟩ := ok_of_run_bind h
  exact (hf x (hr.gives hx)).gives hy

theorem gives_bind {r : Reader α} {f : α → Reader β} (hf : ∀ x, Gives P (f x)) :
    Gives P (r >>= f) :=
  gives_then (Q := fun _ => True) ⟨fun _ => trivial⟩ fun x _ => hf x

theorem gives_lift {e : Except SyntaxError β} (he : ∀ x, e = .ok x → P x) :
    Gives P (liftM e : Reader β) := by
  constructor
  intro i x j h
  cases e with
  | error e => cases h
  | ok y =>
    cases h
    exact he _ rfl

theorem gives_throw (e : SyntaxError) : Gives P (throw e : Reader β) := ⟨fun h => by cases h⟩

theorem gives_forbid (text : String) : Gives P (forbid text) := ⟨fun h => by cases h⟩

theorem gives_ite {p : Prop} [Decidable p] {r s : Reader β} (hr : Gives P r)
    (hs : Gives P s) : Gives P (if p then r else s) := by
  split
  · exact hr
  · exact hs

theorem Gives.imp {Q : β → Prop} {r : Reader β} (hr : Gives P r)
    (himp : ∀ x, P x → Q x) : Gives Q r := ⟨fun h => himp _ (hr.gives h)⟩

end Giving

/-! ## Rules that show more than literals -/

/-- A token among these is no literal. -/
def Marked (ts : List Token) : Prop := ∃ t ∈ ts, ∀ text, t ≠ .literal text

theorem Marked.ne_literal {ts : List Token} (h : Marked ts) (text : String) :
    ts ≠ [.literal text] := by
  rintro rfl
  obtain ⟨t, ht, hother⟩ := h
  exact hother text (List.mem_singleton.mp ht)

theorem marked_cons {t : Token} (ht : ∀ text, t ≠ .literal text) (ts : List Token) :
    Marked (t :: ts) := ⟨t, List.mem_cons_self, ht⟩

theorem Marked.left {ts : List Token} (h : Marked ts) (ts' : List Token) : Marked (ts ++ ts') := by
  obtain ⟨t, ht, hother⟩ := h
  exact ⟨t, List.mem_append_left _ ht, hother⟩

theorem Marked.right {ts : List Token} (h : Marked ts) (ts' : List Token) :
    Marked (ts' ++ ts) := by
  obtain ⟨t, ht, hother⟩ := h
  exact ⟨t, List.mem_append_right _ ht, hother⟩

section Marks

variable {r s : Rule}

theorem gives_left (hr : Gives Marked r) : Gives Marked (r ++ s) :=
  gives_then hr fun _ hx => gives_bind fun _ => gives_pure (hx.left _)

theorem gives_right (hs : Gives Marked s) : Gives Marked (r ++ s) :=
  gives_bind fun _ => gives_then hs fun _ hy => gives_pure (hy.right _)

theorem gives_wanting {α : Type} {P : α → Prop} (wanted : List String) :
    Gives P (wanting wanted) := ⟨fun h => by cases h⟩

theorem gives_takeWord (w : String) : Gives Marked (takeWord w) := by
  refine gives_bind fun ts => ?_
  split
  · refine gives_ite ?_ (gives_wanting _)
    exact gives_bind fun _ => gives_pure (marked_cons (fun _ h => by cases h) _)
  · exact gives_wanting _

theorem gives_nameRule : Gives Marked nameRule :=
  gives_bind fun _ => gives_pure (marked_cons (fun _ h => by cases h) _)

theorem gives_anyWordRule : Gives Marked anyWordRule :=
  gives_bind fun _ => gives_pure (marked_cons (fun _ h => by cases h) _)

theorem gives_lifetimeRule : Gives Marked lifetimeRule :=
  gives_bind fun _ => gives_pure (marked_cons (fun _ h => by cases h) _)

theorem gives_within {d : Delimiter} : Gives Marked (within d r) :=
  gives_bind fun _ => gives_pure (marked_cons (fun _ h => by cases h) _)

theorem marked_sign {s : String} {ts : List Token} (hs : atSign s ts = true) :
    Marked (sign s) := by
  unfold sign
  unfold atSign at hs
  generalize s.toList = chars at hs ⊢
  rcases chars with _ | ⟨c, _ | ⟨d, more⟩⟩
  · cases hs
  · exact marked_cons (fun _ h => by cases h) _
  · exact marked_cons (fun _ h => by cases h) _

theorem gives_takeSign (s : String) : Gives Marked (takeSign s) := by
  constructor
  intro i x j h
  have hs := at_of_run_takeSign h
  rw [run_takeSign_of_at hs] at h
  cases h
  exact marked_sign hs

theorem gives_repeatAlong {α : Type} {P : α → Prop} {step : Reader (α × Bool)}
    (hstep : Gives (fun x => P x.1) step) (fuel : List Token) :
    Gives (fun xs => xs ≠ [] ∧ ∀ x ∈ xs, P x) (repeatAlong step fuel) := by
  induction fuel with
  | nil =>
    refine gives_then hstep fun ⟨x, again⟩ hx => gives_pure ?_
    simpa using hx
  | cons t fuel ih =>
    refine gives_then hstep fun ⟨x, again⟩ hx => gives_ite ?_ (gives_pure ?_)
    · refine gives_then ih fun xs hxs => gives_pure ?_
      simpa using ⟨hx, hxs.2⟩
    · simpa using hx

/-- What the steps of a loop give is what a loop gives, which is one thing at least. -/
theorem gives_repeated {α : Type} {P : α → Prop} {step : Reader (α × Bool)}
    (hstep : Gives (fun x => P x.1) step) :
    Gives (fun xs => xs ≠ [] ∧ ∀ x ∈ xs, P x) (repeated step) :=
  gives_bind fun fuel => gives_repeatAlong hstep fuel

theorem gives_punctuated {α : Type} {P : α → Prop} {member : Reader α}
    (hmember : Gives P member) (stop : List Token → Bool) (separator : String) :
    Gives (fun list => ∀ x ∈ list.members, P x) (punctuated stop separator member) := by
  refine gives_then (gives_repeated (P := fun found => ∀ pair ∈ found, P pair.1) ?_) ?_
  · refine gives_bind fun stops => gives_ite (gives_pure fun _ h => by cases h) ?_
    refine gives_then hmember fun x hx => ?_
    have hone (comma : Bool) : ∀ pair ∈ [(x, comma)], P pair.1 := by simpa using hx
    exact gives_bind fun stops => gives_ite (gives_pure (hone _))
      (gives_bind fun _ => gives_pure (hone _))
  · rintro found ⟨-, hfound⟩
    refine gives_pure fun x hx => ?_
    obtain ⟨pair, hpair, rfl⟩ := List.mem_map.mp hx
    obtain ⟨pairs, hpairs, hpair⟩ := List.mem_flatten.mp hpair
    exact hfound pairs hpairs pair hpair

end Marks

/-! ## Expressions that start with a word -/

section Forms

variable (g : Grammar) (allowStruct : Bool)

theorem gives_block : Gives Marked (block g) := gives_within

theorem gives_ifRule : Gives Marked (ifRule g) := by
  refine gives_then (Q := fun xs => xs ≠ [] ∧ ∀ x ∈ xs, Marked x) (gives_repeated ?_) ?_
  · refine gives_then (gives_left (gives_left (gives_takeWord "if"))) fun clause hclause => ?_
    refine gives_bind fun more => gives_ite (gives_pure hclause) ?_
    refine gives_bind fun word => gives_bind fun ts => gives_ite (gives_pure (hclause.left _)) ?_
    refine gives_ite (gives_bind fun last => gives_pure ?_) (gives_wanting _)
    exact (hclause.left _).left _
  · rintro (_ | ⟨clause, clauses⟩) ⟨hsome, hclauses⟩
    · exact absurd rfl hsome
    · exact gives_pure ((hclauses _ List.mem_cons_self).left _)

theorem gives_whileRule : Gives Marked (whileRule g) := gives_right (gives_block g)

theorem gives_forRule : Gives Marked (forRule g) := gives_right (gives_block g)

theorem gives_loopRule : Gives Marked (loopRule g) := gives_right (gives_block g)

theorem gives_labeled : Gives Marked (labeled g) := by
  refine gives_then (gives_left gives_lifetimeRule) fun label hlabel => gives_bind fun ts => ?_
  have hbehind (r : Rule) : Gives Marked (do return label ++ (← r)) :=
    gives_bind fun _ => gives_pure (hlabel.left _)
  exact gives_ite (hbehind _) (gives_ite (hbehind _) (gives_ite (hbehind _)
    (gives_ite (hbehind _) (gives_forbid _))))

theorem gives_blockLike {ts : List Token} {r : Rule} (h : blockLike? g ts = some r) :
    Gives Marked r := by
  unfold blockLike? at h
  split_ifs at h
  all_goals cases h
  · exact gives_ifRule g
  · exact gives_whileRule g
  · exact gives_forRule g
  · exact gives_loopRule g
  · exact gives_right gives_within
  · exact gives_right (gives_block g)
  · exact gives_right (gives_block g)
  · exact gives_block g
  · exact gives_labeled g

theorem gives_closure : Gives Marked (closure g allowStruct) := by
  refine gives_bind fun marks => gives_then (gives_takeSign "|") fun opening hopening => ?_
  refine gives_bind fun params => gives_bind fun closing => gives_bind fun arrow => ?_
  have hhead : Marked (marks ++ opening ++ params.print "," id ++ closing) :=
    ((hopening.right _).left _).left _
  refine gives_ite ?_ ?_
  · exact gives_bind fun _ => gives_pure (hhead.left _)
  · exact gives_bind fun _ => gives_pure (hhead.left _)

theorem gives_letRule : Gives Marked (letRule g allowStruct) := by
  refine gives_then (gives_right (gives_takeSign "=")) fun head hhead => ?_
  exact gives_bind fun first => gives_bind fun value => gives_pure (hhead.left _)

theorem gives_breakRule : Gives Marked (breakRule g allowStruct) := by
  refine gives_then (gives_takeWord "break") fun word hword => gives_bind fun again => ?_
  have hrest : Gives Marked (do
      let label ← optLifetime
      let mayFollow := fun ts => atExpression ts && (allowStruct || !atGroup .brace ts)
      return word ++ label ++ (← whenNext mayFollow (expressionTokens g))) :=
    gives_bind fun label => gives_bind fun value => gives_pure ((hword.left _).left _)
  exact gives_ite (gives_bind fun _ => gives_bind fun _ => hrest) hrest

theorem gives_segment (inExpression : Bool) :
    Gives (fun x => Marked x.1) (segment g inExpression) := by
  refine gives_bind fun ts => gives_ite ?_ ?_
  · exact gives_then gives_anyWordRule fun name hname => gives_pure hname
  · have hbehind (name : List Token) (hname : Marked name) :
        Gives (fun x : List Token × List Token => Marked x.1) (do
          let ts ← ahead
          let direct := !inExpression && atSign "<" ts && !atSign "<=" ts && !atSign "<<=" ts
          if direct || (atSign "::" ts && atSign "<" (behind (behind ts))) then
            return (name, ← optSign "::" ++ angleArguments g)
          return (name, [])) :=
      gives_bind fun ts => gives_ite (gives_bind fun _ => gives_pure hname) (gives_pure hname)
    exact gives_ite (gives_then gives_anyWordRule hbehind) (gives_then gives_nameRule hbehind)

theorem marked_foldl_push {p : PathForm} (hp : Marked p.stem)
    (more : List (List Token × List Token)) :
    Marked (more.foldl (fun p (name, arguments) => p.push name arguments) p).stem := by
  induction more generalizing p with
  | nil => exact hp
  | cons segment more ih => exact ih (((hp.left _).left _).left _)

theorem gives_path (inExpression : Bool) :
    Gives (fun p => Marked p.stem) (path g inExpression) := by
  refine gives_bind fun leading => gives_bind fun lead => ?_
  refine gives_then (gives_segment g inExpression) fun ⟨name, arguments⟩ hname => ?_
  exact gives_bind fun more => gives_pure (marked_foldl_push (Marked.right hname lead) _)

theorem gives_qualifiedSegments (inExpression : Bool) :
    Gives (fun p => Marked p.stem) (qualifiedSegments g inExpression) := by
  refine gives_then (gives_segment g inExpression) fun ⟨name, arguments⟩ hname => ?_
  exact gives_bind fun more => gives_pure (marked_foldl_push hname _)

theorem gives_qualifiedPath (inExpression : Bool) :
    Gives (fun x => Marked x.1.tokens) (qualifiedPath g inExpression) := by
  refine gives_bind fun angle => gives_ite ?_ ?_
  · refine gives_bind fun opening => gives_bind fun self => gives_bind fun trait => ?_
    refine gives_bind fun closing => ?_
    refine gives_then (gives_qualifiedSegments g inExpression) fun p hp => gives_pure ?_
    exact (hp.right _).left _
  · exact gives_then (gives_path g inExpression) fun p hp => gives_pure (hp.left _)

end Forms

/-! ## Values that are one literal -/

/-- The phrase is more than one literal. -/
structure Compound (p : Phrase) : Prop where
  shape : ∀ text, p.shape ≠ .literal text
  tokens : ∀ text, p.tokens ≠ [.literal text]

/-- The phrase is nothing but a literal, and known to be one. -/
def OneLiteral (p : Phrase) : Prop := ∃ text, p.shape = .literal text ∧ p.tokens = [.literal text]

def LiteralOrCompound (p : Phrase) : Prop := OneLiteral p ∨ Compound p

theorem compound_of_marked {p : Phrase} (hshape : ∀ text, p.shape ≠ .literal text)
    (hp : Marked p.tokens) : Compound p := ⟨hshape, hp.ne_literal⟩

theorem compound_otherPhrase {ts : List Token} (hts : Marked ts) : Compound (otherPhrase ts) :=
  compound_of_marked (fun _ h => by cases h) hts

theorem gives_other {r : Rule} (hr : Gives Marked r) :
    Gives Compound (do return otherPhrase (← r)) :=
  gives_then hr fun _ hts => gives_pure (compound_otherPhrase hts)

theorem gives_blockPhrase {r : Rule} (hr : Gives Marked r) :
    Gives Compound (do return blockPhrase (← r)) :=
  gives_then hr fun _ hts => gives_pure (compound_of_marked (fun _ h => by cases h) hts)

section Phrases

variable (g : Grammar) (allowStruct : Bool)

theorem gives_limits : Gives (fun x => Marked x.1) limits := by
  refine gives_bind fun ts => gives_ite ?_ (gives_ite (gives_wanting _) ?_)
  · exact gives_then (gives_takeSign _) fun dots hdots => gives_pure hdots
  · exact gives_then (gives_takeSign _) fun dots hdots => gives_pure hdots

theorem gives_rangeBehind (start : List Token) :
    Gives Compound (rangeBehind g start allowStruct) := by
  refine gives_then gives_limits fun ⟨dots, closed⟩ hdots => gives_bind fun stops => ?_
  have hrange (ts : List Token) : Compound ⟨start ++ dots ++ ts, .range, false⟩ :=
    compound_of_marked (fun _ h => by cases h) ((Marked.right hdots _).left _)
  refine gives_ite (gives_pure ?_) (gives_bind fun stop => gives_pure (hrange _))
  simpa using hrange []

theorem gives_castBehind (subject : Phrase) : Gives Compound (castBehind g subject) := by
  refine gives_then (gives_takeWord "as") fun word hword => gives_bind fun type => ?_
  refine gives_bind fun ts => ?_
  split
  · exact gives_forbid _
  · exact gives_pure (compound_of_marked (fun _ h => by cases h) ((hword.right _).left _))

theorem gives_pathPhrase : Gives Compound (pathPhrase g allowStruct) := by
  refine gives_then (gives_qualifiedPath g true) fun ⟨p, hasSelf⟩ hp => gives_bind fun ts => ?_
  refine gives_ite ?_ (gives_ite ?_ (gives_pure (compound_otherPhrase hp)))
  · refine gives_bind fun bang => gives_bind fun ⟨body, braces⟩ => gives_pure ?_
    exact compound_of_marked (fun _ h => by cases h) ((hp.left _).left _)
  · exact gives_bind fun fields => gives_pure (compound_otherPhrase (hp.left _))

theorem gives_literalPhrase : Gives LiteralOrCompound literalPhrase := by
  refine gives_then (Q := fun ts => Marked ts ∨ ∃ text, ts = [.literal text]) ?_ ?_
  · refine gives_bind fun ts => ?_
    split
    · exact gives_bind fun _ => gives_pure (Or.inr ⟨_, rfl⟩)
    · refine gives_ite (gives_bind fun _ => gives_pure (Or.inl ?_)) (gives_wanting _)
      exact marked_cons (fun _ h => by cases h) _
    · refine gives_ite (gives_bind fun _ => gives_pure (Or.inl ?_)) (gives_wanting _)
      exact marked_cons (fun _ h => by cases h) _
    · exact gives_wanting _
  · rintro ts (hts | ⟨text, rfl⟩)
    · split
      · exact absurd rfl (hts.ne_literal _)
      · exact gives_pure (Or.inr (compound_otherPhrase hts))
    · exact gives_pure (Or.inl ⟨text, rfl, rfl⟩)

/-- Of the atoms only literals have the shape of one. What is kept as it came is not looked at
here. -/
theorem gives_atom :
    Gives (fun p => LiteralOrCompound p ∨ p.shape = .kept) (atom g allowStruct) := by
  have hcompound {r : Reader Phrase} (hr : Gives Compound r) :
      Gives (fun p => LiteralOrCompound p ∨ p.shape = .kept) r :=
    hr.imp fun _ hp => Or.inl (Or.inr hp)
  refine gives_bind fun ts => ?_
  dsimp only
  refine gives_ite (gives_literalPhrase.imp fun _ => Or.inl) ?_
  refine gives_ite (hcompound (gives_other (gives_left (gives_left (gives_takeWord _))))) ?_
  refine gives_ite (hcompound (gives_blockPhrase (gives_left (gives_takeWord _)))) ?_
  refine gives_ite (hcompound (gives_other (gives_closure g allowStruct))) ?_
  refine gives_ite (gives_bind fun _ => gives_pure (Or.inr rfl)) ?_
  refine gives_ite (hcompound (gives_pathPhrase g allowStruct)) ?_
  refine gives_ite (hcompound (gives_other gives_within)) ?_
  refine gives_ite (hcompound (gives_other (gives_breakRule g allowStruct))) ?_
  refine gives_ite (hcompound (gives_other (gives_left (gives_takeWord _)))) ?_
  refine gives_ite (hcompound (gives_other (gives_left (gives_takeWord _)))) ?_
  refine gives_ite (gives_bind fun _ => gives_pure (Or.inr rfl)) ?_
  refine gives_ite (hcompound (gives_other gives_within)) ?_
  refine gives_ite (hcompound (gives_other (gives_letRule g allowStruct))) ?_
  refine gives_ite (hcompound (gives_other (gives_left (gives_takeWord _)))) ?_
  refine gives_ite (hcompound (gives_rangeBehind g allowStruct [])) ?_
  refine gives_ite (hcompound (gives_other gives_anyWordRule)) ?_
  split
  · rename_i r hr
    exact hcompound (gives_blockPhrase (gives_blockLike g hr))
  · exact gives_forbid _

theorem blank_or_marked_of_joinedIndices {text : String} {indices : List Token} {pointed : Bool}
    (h : joinedIndices text = .ok (indices, pointed)) : indices = [] ∨ Marked indices := by
  unfold joinedIndices at h
  dsimp only at h
  generalize List.mapM tupleIndex _ = found at h
  cases found with
  | error e => cases h
  | ok found =>
    cases h
    cases found with
    | nil => exact Or.inl rfl
    | cons index found => exact Or.inr (marked_cons (fun _ h => by cases h) _)

theorem gives_dotBehind : Gives (fun ts => ts = [] ∨ Marked ts) (dotBehind g) := by
  refine gives_then (gives_takeSign ".") fun dot hdot => gives_bind fun ts => ?_
  split
  · refine gives_then (gives_lift fun _ => id) fun read hindices => ?_
    obtain ⟨indices, pointed⟩ := read
    refine gives_bind fun _ => gives_ite ?_ ?_
    · exact gives_bind fun last => gives_pure (Or.inr ((hdot.right _).left _))
    · exact gives_pure (blank_or_marked_of_joinedIndices hindices)
  · exact gives_bind fun last => gives_pure (Or.inr (hdot.left _))

theorem marked_flatten {found : List (List Token)} (hfound : ∀ ts ∈ found, ts = [] ∨ Marked ts)
    (hsome : found.flatten ≠ []) : Marked found.flatten := by
  induction found with
  | nil => exact absurd rfl hsome
  | cons ts found ih =>
    rcases hfound ts List.mem_cons_self with rfl | hts
    · exact ih (fun ts' hts' => hfound ts' (List.mem_cons_of_mem _ hts')) hsome
    · exact hts.left _

/-- What stands behind a phrase makes it compound. -/
theorem gives_trailers (subject : Phrase) :
    Gives (fun p => p = subject ∨ Compound p ∧ p.shape = .other) (trailers g subject) := by
  have hmarked {r : Rule} (hr : Gives Marked r) : Gives (fun x : List Token × Bool =>
      x.1 = [] ∨ Marked x.1) (do return (← r, true)) :=
    gives_then hr fun _ hts => gives_pure (Or.inr hts)
  refine gives_then (gives_repeated (P := fun ts => ts = [] ∨ Marked ts) ?_) ?_
  · refine gives_bind fun ts => gives_ite (hmarked gives_within) (gives_ite ?_ ?_)
    · exact gives_then (gives_dotBehind g) fun ts hts => gives_pure hts
    · exact gives_ite (hmarked gives_within) (gives_ite (hmarked (gives_takeSign _))
        (gives_pure (Or.inl rfl)))
  · intro found hfound
    by_cases hempty : found.flatten = []
    · simp only [hempty, List.isEmpty_nil, if_true]
      exact gives_pure (Or.inl rfl)
    · have hmore := marked_flatten hfound.2 hempty
      refine gives_ite (gives_pure (Or.inl rfl)) (gives_pure (Or.inr ⟨?_, rfl⟩))
      exact compound_otherPhrase (hmore.right _)

theorem prefix_of_since {start shown : List Token} {i j : Input}
    (h : since start i = .ok (shown, j)) : shown <+: start := by
  cases h
  exact List.take_prefix _ _

theorem not_kept_of_literal {text : String} {more : List Token} {l : Option Delimiter} {p : Phrase}
    {j : Input} (h : atom g allowStruct ⟨.literal text :: more, l⟩ = .ok (p, j)) :
    p.shape ≠ .kept := by
  have hread : atom g allowStruct ⟨.literal text :: more, l⟩ =
      .ok (⟨[.literal text], .literal text, false⟩, ⟨more, l⟩) := rfl
  rw [hread] at h
  cases h
  exact fun h => by cases h

/-- A single hash, behind which no brackets stand, begins nothing. -/
theorem atSign_hash_of_outerAttributes {i j : Input} {attributes : List Token}
    (hbare : (atSign "#" i.tokens && atGroup .bracket (behind i.tokens)) = false)
    (h : outerAttributes g i = .ok (attributes, j)) : atSign "#" i.tokens = false := by
  obtain ⟨ts, l⟩ := i
  by_contra hhash
  rw [Bool.not_eq_false] at hhash
  obtain ⟨joint, r, rfl⟩ := eq_of_startsSign (c := '#') hhash
  obtain ⟨found, k, hfound, -⟩ := ok_of_run_bind h
  obtain ⟨x, again, k', hstep, -⟩ := ok_of_repeatAlong hfound
  obtain ⟨b, i', hnext, hstep⟩ := ok_of_run_bind hstep
  cases hnext
  rw [if_pos hhash] at hstep
  obtain ⟨first, k'', hfirst, -⟩ := ok_of_run_bind hstep
  obtain ⟨mark, i', hmark, hrest⟩ := ok_of_run_bind hfirst
  rw [run_takeSign_of_at hhash] at hmark
  cases hmark
  obtain ⟨content, k3, hcontent, -⟩ := ok_of_run_bind hrest
  obtain ⟨body, k4, hbody, -⟩ := ok_of_run_bind hcontent
  obtain ⟨inner, rest, y, after, k5, rfl, -⟩ := ok_of_insideThen hbody
  cases hbare

theorem gives_referencePhrase : Gives Marked (referencePhrase g allowStruct) := by
  refine gives_then (gives_takeSign "&") fun mark hmark => gives_bind fun raw => ?_
  have hbehind (kind : List Token) : Gives Marked (do
      return mark ++ kind ++ (← g.unary allowStruct).tokens) :=
    gives_bind fun _ => gives_pure ((hmark.left _).left _)
  exact gives_ite (gives_bind hbehind) (gives_bind hbehind)

section Subjects

variable {i k k' : Input} {head subject : Phrase}

/-- An atom that is not kept, with what stands behind it: a literal only where nothing does. -/
theorem literalOrCompound_of_trailers (hhead : atom g allowStruct i = .ok (head, k))
    (hsubject : trailers g head k = .ok (subject, k')) (hkept : subject.shape ≠ .kept) :
    LiteralOrCompound subject := by
  rcases (gives_trailers g head).gives hsubject with rfl | ⟨hcompound, -⟩
  · exact ((gives_atom g allowStruct).gives hhead).resolve_right hkept
  · exact Or.inr hcompound

/-- What is kept begins where its atom does, which is not at a literal. -/
theorem compound_of_kept {shown : List Token} (hhead : atom g allowStruct i = .ok (head, k))
    (hsubject : trailers g head k = .ok (subject, k')) (hkept : subject.shape = .kept)
    (hshown : shown <+: i.tokens) : Compound (keptPhrase shown) := by
  refine ⟨fun _ h => (by cases h), fun text htext => ?_⟩
  obtain rfl : shown = [.literal text] := htext
  obtain ⟨ts, l⟩ := i
  obtain ⟨more, rfl⟩ := hshown
  have hhead' := not_kept_of_literal g allowStruct hhead
  rcases (gives_trailers g head).gives hsubject with rfl | ⟨-, hother⟩
  · exact hhead' hkept
  · rw [hother] at hkept
    cases hkept

end Subjects

/-- An operand without attributes: a literal only where it is nothing else. -/
theorem literalOrCompound_of_unaryRule {i j : Input} {p : Phrase}
    (hbare : (atSign "#" i.tokens && atGroup .bracket (behind i.tokens)) = false)
    (h : unaryRule g allowStruct i = .ok (p, j)) : LiteralOrCompound p := by
  obtain ⟨ts, l⟩ := i
  have hahead : ahead ⟨ts, l⟩ = .ok (ts, ⟨ts, l⟩) := rfl
  have hlook {f : List Token → Reader Phrase} : (ahead >>= f) ⟨ts, l⟩ = f ts ⟨ts, l⟩ :=
    run_bind_of_ok hahead
  unfold unaryRule at h
  rw [hlook] at h
  obtain ⟨attributes, k, hattributes, h⟩ := ok_of_run_bind h
  have hnone := atSign_hash_of_outerAttributes g hbare hattributes
  rw [outerAttributes_of_none hnone] at hattributes
  cases hattributes
  rw [hlook] at h
  split at h
  · have hreference : Gives LiteralOrCompound (do
        return otherPhrase ([] ++ (← referencePhrase g allowStruct))) :=
      gives_then (gives_referencePhrase g allowStruct) fun _ hx =>
        gives_pure (Or.inr (compound_otherPhrase (hx.right _)))
    exact hreference.gives h
  split at h
  · have hoperand (sign : List Token) (hsign : Marked sign) : Gives LiteralOrCompound (do
        return otherPhrase ([] ++ sign ++ (← g.unary allowStruct).tokens)) :=
      gives_bind fun _ => gives_pure (Or.inr (compound_otherPhrase (hsign.left _)))
    refine (gives_ite ?_ (gives_ite ?_ ?_)).gives h
    all_goals exact gives_then (gives_takeSign _) hoperand
  · obtain ⟨head, k, hhead, h⟩ := ok_of_run_bind h
    obtain ⟨subject, k', hsubject, h⟩ := ok_of_run_bind h
    have hbehind : subject.withAttributes [] = subject := by
      simp [Phrase.withAttributes, attributedRange]
    split at h
    · rename_i hkept
      obtain ⟨shown, k'', hshown, h⟩ := ok_of_run_bind h
      cases h
      exact Or.inr (compound_of_kept g allowStruct hhead hsubject hkept (prefix_of_since hshown))
    · rename_i hkept
      rw [hbehind] at h
      have hsubject' := literalOrCompound_of_trailers g allowStruct hhead hsubject hkept
      exact (gives_ite (gives_throw _) (gives_pure (P := LiteralOrCompound) hsubject')).gives h

/-- Operators make a phrase compound. -/
theorem gives_climb (n : Nat) {left : Phrase} (hleft : LiteralOrCompound left)
    (allowStruct : Bool) (base : Nat) :
    Gives LiteralOrCompound ((grammar n).climb left allowStruct base) := by
  induction n generalizing left base with
  | zero => exact gives_forbid _
  | succ n ih =>
    have hjoined {sign : List Token} (hsign : Marked sign) (more : List Token) (keptHead : Bool)
        {shape : Shape} (hshape : ∀ text, shape ≠ .literal text) :
        LiteralOrCompound ⟨left.tokens ++ sign ++ more, shape, keptHead⟩ :=
      Or.inr (compound_of_marked hshape ((hsign.right _).left _))
    change Gives LiteralOrCompound (climbRule (grammar n) left allowStruct base)
    refine gives_ite (gives_pure hleft) (gives_bind fun ts => ?_)
    split
    · refine gives_ite (gives_pure hleft) (gives_ite (gives_forbid _) ?_)
      refine gives_then (gives_takeSign _) fun sign hsign => gives_bind fun right => ih ?_ _
      refine hjoined hsign _ _ fun text h => ?_
      split at h
      · cases h
      · cases h
    · refine gives_ite ?_ (gives_ite ?_ (gives_ite ?_ (gives_pure hleft)))
      · refine gives_then (gives_takeSign _) fun sign hsign => gives_bind fun right => ih ?_ _
        exact hjoined hsign _ _ fun text h => by cases h
      · exact gives_then (gives_rangeBehind _ _ _) fun range hrange => ih (Or.inr hrange) _
      · exact gives_then (gives_castBehind _ _) fun cast hcast => ih (Or.inr hcast) _

theorem literalOrCompound_of_expression {n : Nat} {i j : Input} {p : Phrase}
    (hbare : (atSign "#" i.tokens && atGroup .bracket (behind i.tokens)) = false)
    (h : (grammar n).expression true i = .ok (p, j)) : LiteralOrCompound p := by
  cases n with
  | zero => cases h
  | succ n =>
    obtain ⟨first, k, hfirst, hclimb⟩ := ok_of_run_bind
      (show expressionRule (grammar n) true i = .ok (p, j) from h)
    cases n with
    | zero => cases hfirst
    | succ n =>
      have hliteral := literalOrCompound_of_unaryRule _ _ hbare hfirst
      exact (gives_climb _ hliteral _ _).gives hclimb

end Phrases

theorem gives_metaValue (n : Nat) : Gives LiteralOrCompound (metaValue (grammar n)) := by
  rw [metaValue_eq]
  refine gives_bind fun lone => ?_
  split
  · rename_i ts
    refine gives_pure ?_
    unfold literalValue
    split
    · exact Or.inl ⟨_, rfl, rfl⟩
    · rename_i hts
      exact Or.inr ⟨fun _ h => (by cases h), hts⟩
  · constructor
    intro i p j h
    unfold expressionValue at h
    rw [run_bind_of_ok (run_next _ _)] at h
    split at h
    · cases h
    · rename_i hbare
      exact literalOrCompound_of_expression (Bool.eq_false_iff.mpr hbare) h

end MarkerInjection.Source
