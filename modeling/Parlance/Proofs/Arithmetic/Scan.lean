import Parlance.Proofs.Arithmetic.Item

/-!
# Scans from the left

Three kinds of passes go over a list from left to right: chains, steps and the levels of operators
between operands. They differ only in what an expression can merge with behind it. `Scans` says what
such a pass does for any way to merge, so facts about the order of merging are stated once.
-/

namespace Parlance.Arithmetic

/-- A way in which an expression merges with the items behind it, with what comes out of it. -/
abbrev Merging := Expr → (taken : List Item) → Except CompileError Expr → Prop

/-- A scan that succeeds: an expression merges with what it can merge with, anything else is kept
and left behind. `current` stands before the items still to be scanned. -/
inductive Scans (merges : Merging) : (current : Item) → List Item → List Item → Prop where
  | last {current} : Scans merges current [] [current]
  | merge {value taken made rest items} (merged : merges value taken (.ok made))
      (scan : Scans merges (.expr made) rest items) :
      Scans merges (.expr value) (taken ++ rest) items
  | keep {current item rest items}
      (idle : ∀ value taken made after, current = .expr value → merges value taken made →
        item :: rest ≠ taken ++ after)
      (scan : Scans merges item rest items) :
      Scans merges current (item :: rest) (current :: items)

namespace Scans

variable {merges : Merging} {current separator : Item} {rest items right others : List Item}

theorem ne_nil (scan : Scans merges current rest items) : items ≠ [] := by
  induction scan with
  | last => simp
  | merge _ _ ih => exact ih
  | keep _ _ _ => simp

/-- What a scan has merged into one expression goes on merging with what stands behind. -/
theorem append {made : Expr} (scan : Scans merges current rest [.expr made])
    (behind : Scans merges (.expr made) right items) :
    Scans merges current (rest ++ right) items := by
  generalize outcome : [Item.expr made] = single at scan
  induction scan with
  | last =>
      cases outcome
      exact behind
  | merge merged _ ih =>
      rw [List.append_assoc]
      exact .merge merged (ih outcome)
  | keep _ scan _ =>
      cases outcome
      exact absurd rfl scan.ne_nil

/-- An item that takes no part in merging separates a scan into two. -/
theorem separate (apart : ∀ value taken made, merges value taken made → separator ∉ taken)
    (nonempty : ∀ value taken made, merges value taken made → taken ≠ [])
    (scan : Scans merges current rest items) (behind : Scans merges separator right others) :
    Scans merges current (rest ++ separator :: right) (items ++ others) := by
  induction scan with
  | last =>
      refine .keep ?_ behind
      intro value taken made after _ merged split
      cases taken with
      | nil => exact nonempty _ _ _ merged rfl
      | cons first taken =>
          cases split
          exact apart _ _ _ merged (by simp)
  | merge merged _ ih =>
      rw [List.append_assoc]
      exact .merge merged ih
  | keep idle _ ih =>
      refine .keep ?_ ih
      intro value taken made after same merged split
      -- The separator does not merge, so what merges lies before it.
      have split : (_ :: _) ++ separator :: right = taken ++ after := split
      rcases List.append_eq_append_iff.1 split with ⟨more, rfl, rest_eq⟩ | ⟨more, kept, _⟩
      · cases more with
        | nil => exact idle _ _ _ [] same merged (by simp)
        | cons first more =>
            cases rest_eq
            exact apart _ _ _ merged (by simp)
      · exact idle _ _ _ more same merged kept

/-- Around an item that takes no part in merging, a scan consists of two. -/
theorem split (apart : ∀ value taken made, merges value taken made → separator ∉ taken)
    (scan : Scans merges current (rest ++ separator :: right) items) :
    ∃ former latter, items = former ++ latter ∧ Scans merges current rest former ∧
      Scans merges separator right latter := by
  generalize whole : rest ++ separator :: right = list at scan
  induction scan generalizing rest with
  | last => simp at whole
  | @merge value taken made behind items merged _ ih =>
      -- What merges ends in front of the separator, since it does not contain it.
      rcases List.append_eq_append_iff.1 whole with ⟨more, rfl, rest_eq⟩ | ⟨more, rfl, rest_eq⟩
      · cases more with
        | nil =>
            obtain ⟨former, latter, rfl, scan, scanBehind⟩ := @ih [] rest_eq
            exact ⟨former, latter, rfl, by simpa using Scans.merge merged scan, scanBehind⟩
        | cons first more =>
            cases rest_eq
            exact absurd (by simp) (apart _ _ _ merged)
      · obtain ⟨former, latter, rfl, scan, scanBehind⟩ := ih rest_eq.symm
        exact ⟨former, latter, rfl, .merge merged scan, scanBehind⟩
  | @keep current item behind items idle scan ih =>
      cases rest with
      | nil =>
          cases whole
          exact ⟨[current], items, rfl, .last, scan⟩
      | cons first rest =>
          cases whole
          obtain ⟨former, latter, rfl, scan, scanBehind⟩ := ih rfl
          refine ⟨current :: former, latter, rfl, .keep ?_ scan, scanBehind⟩
          intro value taken made after same merged split
          exact idle value taken made (after ++ separator :: right) same merged
            (by rw [← List.append_assoc, ← split]; rfl)

end Scans

/-- A scan of a whole list. -/
inductive ScansAll (merges : Merging) : List Item → List Item → Prop where
  | nil : ScansAll merges [] []
  | cons {first rest items} (scan : Scans merges first rest items) :
      ScansAll merges (first :: rest) items

namespace ScansAll

variable {merges : Merging} {left right items others : List Item}

/-- What a scan has merged into one expression goes on merging with what stands behind. -/
theorem append {made : Expr} (scan : ScansAll merges left [.expr made])
    (behind : Scans merges (.expr made) right items) : ScansAll merges (left ++ right) items := by
  cases scan with
  | cons scan => exact .cons (scan.append behind)

/-- One more merge behind what a scan has merged into one expression. -/
theorem merge {value made : Expr} {taken : List Item} (scan : ScansAll merges left [.expr value])
    (merged : merges value taken (.ok made)) : ScansAll merges (left ++ taken) [.expr made] := by
  have last : Scans merges (.expr value) (taken ++ []) [.expr made] := .merge merged .last
  rw [List.append_nil] at last
  exact scan.append last

/-- A node that takes no part in merging separates a scan into two. -/
theorem separate {node : Node}
    (apart : ∀ value taken made, merges value taken made → .ofNode node ∉ taken)
    (nonempty : ∀ value taken made, merges value taken made → taken ≠ [])
    (scan : ScansAll merges left items) (behind : ScansAll merges right others) :
    ScansAll merges (left ++ .ofNode node :: right) (items ++ .ofNode node :: others) := by
  have scanBehind : Scans merges (.ofNode node) right (.ofNode node :: others) := by
    cases behind with
    | nil => exact .last
    | cons scan => exact .keep (fun _ _ _ _ same => nomatch same) scan
  cases scan with
  | nil => exact .cons scanBehind
  | cons scan => exact .cons (scan.separate apart nonempty scanBehind)

/-- Around a node that takes no part in merging, a scan consists of two. -/
theorem split {node : Node}
    (apart : ∀ value taken made, merges value taken made → .ofNode node ∉ taken)
    (scan : ScansAll merges (left ++ .ofNode node :: right) items) :
    ∃ former latter, items = former ++ .ofNode node :: latter ∧ ScansAll merges left former ∧
      ScansAll merges right latter := by
  have behind : ∀ {latter}, Scans merges (.ofNode node) right latter →
      ∃ others, latter = .ofNode node :: others ∧ ScansAll merges right others := by
    intro latter scan
    generalize start : Item.ofNode node = current at scan
    cases scan with
    | last => exact ⟨[], rfl, .nil⟩
    | merge => cases start
    | keep _ scanRest => exact ⟨_, rfl, .cons scanRest⟩
  cases left with
  | nil =>
      cases scan with
      | cons scan =>
          obtain ⟨others, rfl, scanBehind⟩ := behind scan
          exact ⟨[], others, rfl, .nil, scanBehind⟩
  | cons first rest =>
      cases scan with
      | cons scan =>
          obtain ⟨former, latter, rfl, scanLeft, scanFrom⟩ := scan.split apart
          obtain ⟨others, rfl, scanBehind⟩ := behind scanFrom
          exact ⟨former, others, rfl, .cons scanLeft, scanBehind⟩

end ScansAll

/-! ### The passes as scans -/

/-- A value merges with a member, or with a call or an index. -/
inductive MergesInChain : Merging where
  | member {value item after dot property} (dotted : item.token? "dot" = some dot)
      (named : after.token? "property" = some property) :
      MergesInChain value [item, after] (.ok (memberOf value dot property))
  | bracket {value item made} (found : bracketOf? value item = some made) :
      MergesInChain value [item] made

/-- An operand merges with the step behind it. -/
inductive MergesInStep : Merging where
  | step {operand item node} (found : item.token? "postfix" = some node) :
      MergesInStep operand [item] (stepOf operand node)

/-- A left operand merges with an operator of the level and its right operand. -/
inductive MergesInLevel (level : List BinaryOperator) : Merging where
  | binary {left item operator right} (found : item.operator? level = some operator) :
      MergesInLevel level left [item, .expr right] (.ok (binaryOf operator left right))

/-- What makes a call or an index is not a token. -/
theorem token?_of_bracketOf? {value : Expr} {item : Item} {made : Except CompileError Expr}
    (found : bracketOf? value item = some made) (name : String) : item.token? name = none := by
  obtain ⟨node, inside, rfl, named⟩ := bracketOf?_cases found
  have isGroup : node.isToken = false := named.elim (·.1.1) (·.1.1)
  simp [Item.token?, isGroup]

theorem not_mergesInChain {value : Expr} {item : Item} {rest taken after : List Item}
    {made : Except CompileError Expr} (noBracket : bracketOf? value item = none)
    (noMember : ∀ dot property next others, rest = next :: others →
      item.token? "dot" = some dot → next.token? "property" = some property → False)
    (merged : MergesInChain value taken made) : item :: rest ≠ taken ++ after := by
  intro split
  cases merged with
  | member dotted named =>
      cases split
      exact noMember _ _ _ _ rfl dotted named
  | bracket found =>
      cases split
      rw [noBracket] at found
      cases found

/-- The pass for chains is a scan. -/
theorem reduceChains_eq_ok_iff {current : Item} {rest items : List Item} :
    reduceChains current rest = .ok items ↔ Scans MergesInChain current rest items := by
  constructor
  · intro done
    fun_induction reduceChains current rest generalizing items with
    | case1 =>
        cases done
        exact .last
    | case2 item value made found =>
        obtain ⟨expr, rfl, rfl⟩ := map_eq_ok_iff.1 done
        exact (Scans.merge (MergesInChain.bracket found) .last : Scans _ _ ([item] ++ []) _)
    | case3 item value noBracket =>
        cases done
        refine .keep ?_ .last
        rintro _ taken made after ⟨⟩ merged
        exact not_mergesInChain noBracket (by simp) merged
    | case4 current item notExpr =>
        cases done
        exact .keep (fun value _ _ _ same => absurd same (notExpr value)) .last
    | case5 item after rest value dot property named dotted ih =>
        exact (Scans.merge (.member dotted named) (ih done) : Scans _ _ ([item, after] ++ rest) _)
    | case6 item after rest value made found noMember ih =>
        obtain ⟨expr, rfl, scanned⟩ := bind_eq_ok_iff.1 done
        exact (Scans.merge (.bracket found) (ih expr scanned) :
          Scans _ _ ([item] ++ after :: rest) _)
    | case7 item after rest value noBracket noMember ih =>
        obtain ⟨scanned, behind, rfl⟩ := map_eq_ok_iff.1 done
        refine .keep ?_ (ih behind)
        rintro _ taken made later ⟨⟩ merged
        refine not_mergesInChain noBracket ?_ merged
        rintro dot property _ _ ⟨⟩ dotted named
        exact noMember dot property dotted named
    | case8 current item after rest notExpr ih =>
        obtain ⟨scanned, behind, rfl⟩ := map_eq_ok_iff.1 done
        exact .keep (fun value _ _ _ same => absurd same (notExpr value)) (ih behind)
  · intro scan
    induction scan with
    | last => rfl
    | @merge value taken made rest items merged scan ih =>
        cases merged with
        | member dotted named => simp [reduceChains, dotted, named, ih]
        | bracket found =>
            cases rest with
            | nil => simpa [reduceChains, found, Except.map] using ih
            | cons after rest =>
                simp [reduceChains, found, token?_of_bracketOf? found, ih, bind, Except.bind]
    | @keep current item rest items idle scan ih =>
        cases current with
        | raw node inside => cases rest <;> simp_all [reduceChains, Functor.map, Except.map]
        | branches truthy falsy origin =>
            cases rest <;> simp_all [reduceChains, Functor.map, Except.map]
        | expr value =>
            have noBracket : bracketOf? value item = none := by
              cases found : bracketOf? value item with
              | none => rfl
              | some made => exact absurd rfl (idle value [item] made rest rfl (.bracket found))
            cases rest with
            | nil => simpa [reduceChains, noBracket] using ih
            | cons after rest =>
                have noMember : ∀ dot property, item.token? "dot" = some dot →
                    after.token? "property" = some property → False := by
                  intro dot property dotted named
                  exact idle value [item, after] _ rest rfl (.member dotted named) rfl
                rw [reduceChains]
                split
                · rename_i dot property dotted named
                  exact absurd named (noMember dot property dotted)
                · simp [noBracket, ih, Functor.map, Except.map]

/-- The pass for steps is a scan. -/
theorem reduceSteps_eq_ok_iff {current : Item} {rest items : List Item} :
    reduceSteps current rest = .ok items ↔ Scans MergesInStep current rest items := by
  constructor
  · intro done
    fun_induction reduceSteps current rest generalizing items with
    | case1 =>
        cases done
        exact .last
    | case2 item rest operand node found ih =>
        obtain ⟨expr, made, scanned⟩ := bind_eq_ok_iff.1 done
        have merged : MergesInStep operand [item] (stepOf operand node) := .step found
        rw [made] at merged
        exact (Scans.merge merged (ih expr scanned) : Scans _ _ ([item] ++ rest) _)
    | case3 current item rest noStep ih =>
        obtain ⟨scanned, behind, rfl⟩ := map_eq_ok_iff.1 done
        refine .keep ?_ (ih behind)
        intro value taken made after same merged split
        cases merged
        cases split
        rename_i node found
        exact noStep value node same found
  · intro scan
    induction scan with
    | last => rfl
    | @merge value taken made rest items merged scan ih =>
        generalize outcome : Except.ok made = result at merged
        cases merged with
        | step found => simp [reduceSteps, found, ← outcome, ih, bind, Except.bind]
    | @keep current item rest items idle scan ih =>
        rw [reduceSteps, ih]
        · rfl
        · intro operand node same found
          exact idle operand [item] _ rest same (.step found) rfl

/-- The pass for a level of operators is a scan. -/
theorem reduceLevel_eq_iff {level : List BinaryOperator} {current : Item} {rest items : List Item} :
    reduceLevel level current rest = items ↔ Scans (MergesInLevel level) current rest items := by
  constructor
  · intro done
    fun_induction reduceLevel level current rest generalizing items with
    | case1 =>
        cases done
        exact .last
    | case2 current item =>
        cases done
        refine .keep ?_ .last
        intro value taken made after same merged split
        cases merged
        cases split
    | case3 item rest left operator right found ih =>
        exact (Scans.merge (.binary found) (ih done) :
          Scans _ _ ([item, .expr right] ++ rest) _)
    | case4 current item after rest noOperator ih =>
        cases done
        refine .keep ?_ (ih rfl)
        intro value taken made later same merged split
        cases merged
        cases split
        rename_i operator right found
        exact noOperator value operator right same found rfl
  · intro scan
    induction scan with
    | last => rfl
    | @merge value taken made rest items merged scan ih =>
        cases merged with
        | binary found => simp [reduceLevel, found, ih]
    | @keep current item rest items idle scan ih =>
        cases rest with
        | nil => simpa [reduceLevel] using ih
        | cons after rest =>
            rw [reduceLevel, ih]
            rintro left operator right same found rfl
            exact idle left [item, .expr right] _ rest same (.binary found) rfl

theorem fromFirstM_eq_ok_iff {merges : Merging}
    {pass : Item → List Item → Except CompileError (List Item)}
    (passes : ∀ current rest items, pass current rest = .ok items ↔
      Scans merges current rest items) {items out : List Item} :
    fromFirstM pass items = .ok out ↔ ScansAll merges items out := by
  cases items with
  | nil =>
      constructor
      · rintro ⟨⟩
        exact .nil
      · rintro ⟨⟩
        rfl
  | cons first rest =>
      constructor
      · intro done
        exact .cons ((passes _ _ _).1 done)
      · intro scanned
        cases scanned with
        | cons scan => exact (passes _ _ _).2 scan

/-- The passes up to the operators in front of operands are scans, but for the first and the
last. -/
theorem reduceOperands_eq_ok_iff {items out : List Item} :
    reduceOperands items = .ok out ↔ ∃ atoms chains posts, reduceAtoms items = .ok atoms ∧
      ScansAll MergesInChain atoms chains ∧ ScansAll MergesInStep chains posts ∧
      reduceUnary posts = .ok out := by
  simp only [reduceOperands, bind_eq_ok_iff,
    fromFirstM_eq_ok_iff fun _ _ _ => reduceChains_eq_ok_iff,
    fromFirstM_eq_ok_iff fun _ _ _ => reduceSteps_eq_ok_iff]
  constructor
  · rintro ⟨atoms, done, chains, scanned, posts, stepped, finished⟩
    exact ⟨atoms, chains, posts, done, scanned, stepped, finished⟩
  · rintro ⟨atoms, chains, posts, done, scanned, stepped, finished⟩
    exact ⟨atoms, done, chains, scanned, posts, stepped, finished⟩

theorem fromFirst_reduceLevel_eq_iff {level : List BinaryOperator} {items out : List Item} :
    fromFirst (reduceLevel level) items = out ↔ ScansAll (MergesInLevel level) items out := by
  cases items with
  | nil =>
      constructor
      · rintro rfl
        exact .nil
      · rintro ⟨⟩
        rfl
  | cons first rest =>
      constructor
      · intro done
        exact .cons (reduceLevel_eq_iff.1 done)
      · intro scanned
        cases scanned with
        | cons scan => exact reduceLevel_eq_iff.2 scan

end Parlance.Arithmetic
