import Colloquy.Proofs.Resolution.Footprints

/-!
# Trees that no pool sways

A tree without code of its author for parts of it is not swayed by a pool if, where options must not
be repeated, any two of them have entries of the same kinds by the same speakers after the same draws.
-/

set_option autoImplicit false

namespace Colloquy

open Selection (Choice Drawing)

namespace Datum

theorem plainly_numbersOrdered (question : Comparison) (left right : Datum) :
    Plainly (numbersOrdered question left right) := by
  unfold numbersOrdered
  split
  · split
    · exact .ok _
    · split
      · exact .error rfl
      · exact .ok _
  · exact .error rfl

mutual

theorem plainly_ordered (question : Comparison) :
    ∀ left right : Datum, Plainly (ordered question left right)
  | .text _, right => by cases right <;> first | exact .ok _ | exact .error rfl
  | .bytes _, right => by cases right <;> first | exact .ok _ | exact .error rfl
  | .date _, right => by cases right <;> first | exact .ok _ | exact .error rfl
  | .list left, right => by
      cases right with
      | list right => exact plainly_orderedItems question left right
      | _ => exact .error rfl
  | .tuple left, right => by
      cases right with
      | tuple right => exact plainly_orderedItems question left right
      | _ => exact .error rfl
  | .null, right => by simpa [ordered] using plainly_numbersOrdered question .null right
  | .bool left, right => by simpa [ordered] using plainly_numbersOrdered question (.bool left) right
  | .int left, right => by simpa [ordered] using plainly_numbersOrdered question (.int left) right
  | .float left, right => by
      simpa [ordered] using plainly_numbersOrdered question (.float left) right
  | .mapping left, right => by
      simpa [ordered] using plainly_numbersOrdered question (.mapping left) right
  | .decimal left, right => by
      simpa [ordered] using plainly_numbersOrdered question (.decimal left) right
  | .object kind fields, right => by
      simpa [ordered] using plainly_numbersOrdered question (.object kind fields) right

theorem plainly_orderedItems (question : Comparison) :
    ∀ left right : List Datum, Plainly (orderedItems question left right)
  | [], _ => .ok _
  | _ :: _, [] => .ok _
  | item :: items, other :: rest => by
      rw [orderedItems]
      split
      · exact plainly_orderedItems question items rest
      · exact plainly_ordered question item other

end

end Datum

namespace Selection

theorem plainly_placeInRange {κ : Type} [Arithmetic κ] (minimum maximum : Int) (draw : κ) :
    Plainly (placeInRange minimum maximum draw) := by
  unfold placeInRange
  split
  · exact (plainly_wholePart _ _).bind fun _ _ => .ok _
  · exact .error rfl

theorem plainly_asDouble (value : Datum) : Plainly (asDouble value) := by
  unfold asDouble
  split
  · exact .ok _
  · split
    · exact .ok _
    · exact .error rfl

theorem plainly_valueBetween (minimum maximum : Datum) (draw : Float) :
    Plainly (valueBetween minimum maximum draw) := by
  unfold valueBetween
  split
  · exact (plainly_placeInRange _ _ draw).bind fun _ _ => .ok _
  · split
    · refine (plainly_asDouble maximum).bind fun _ _ => (plainly_asDouble minimum).bind fun _ _ =>
        (plainly_wholePart _ _).bind fun place _ => ?_
      unfold countedFrom
      split
      · exact (plainly_asDouble _).bind fun _ _ => .ok _
      · exact .ok _
    · split
      · exact .error rfl
      · split <;> exact .error rfl

/-- No result of the drawing is an error of skew. -/
def Drawing.IsCandid {κ α : Type} : Drawing κ (Except Error α) → Prop
  | .done result => Candid result
  | .draw rest => ∀ value, (rest value).IsCandid

theorem candid_betweenBounds (minimum maximum : Datum) :
    (betweenBounds minimum maximum).IsCandid := by
  unfold betweenBounds
  cases ordered : Datum.ordered .above minimum maximum with
  | error error => exact .error ((Datum.plainly_ordered _ _ _).candid error ordered)
  | ok above =>
      cases above with
      | false => exact fun value => (plainly_valueBetween minimum maximum value).candid
      | true => exact .error fun skew => nomatch skew

theorem candid_chance (probability : Datum) : (chance probability).IsCandid :=
  fun _ => (Datum.plainly_ordered _ _ _).candid

end Selection

mutual

theorem Datum.candid_toNode : ∀ value : Datum, Candid value.toNode
  | .null => .ok _
  | .list items => (Datum.candid_toNodes items).map _
  | .tuple items => (Datum.candid_toNodes items).map _
  | .bool _ => .error fun skew => nomatch skew
  | .int _ => .error fun skew => nomatch skew
  | .float _ => .error fun skew => nomatch skew
  | .text _ => .error fun skew => nomatch skew
  | .mapping _ => .error fun skew => nomatch skew
  | .bytes _ => .error fun skew => nomatch skew
  | .decimal _ => .error fun skew => nomatch skew
  | .date _ => .error fun skew => nomatch skew
  | .object _ _ => .error fun skew => nomatch skew

theorem Datum.candid_toNodes : ∀ items : List Datum, Candid (Datum.toNodes items)
  | [] => .ok _
  | item :: items => (Datum.candid_toNode item).bind fun _ _ =>
      (Datum.candid_toNodes items).bind fun _ _ => .ok _

end

mutual

theorem Item.candid_toNode : ∀ item : Item, Candid item.toNode
  | .node _ => .ok _
  | .list items => (Item.candid_toNodes items).map _
  | .tuple items => (Item.candid_toNodes items).map _
  | .datum value => value.candid_toNode
  | .weighted _ _ => Datum.candid_toNode _
  | .mapping _ => Datum.candid_toNode _

theorem Item.candid_toNodes : ∀ items : List Item, Candid (Item.toNodes items)
  | [] => .ok _
  | item :: items => (Item.candid_toNode item).bind fun _ _ =>
      (Item.candid_toNodes items).bind fun _ _ => .ok _

end

theorem Item.unskewed_of_fault {item : Item} {error : Error} (fault : item.fault? = some error) :
    error.Unskewed := by
  unfold Item.fault? at fault
  split at fault
  · cases fault
  next cause failed =>
    cases fault
    exact item.candid_toNode _ failed

/-- Two scripts draw and make entries alike, and neither raises an error of skew. -/
structure Script.Even (left right : Script) : Prop where
  alike : left.Alike right
  left : left.IsCandid
  right : right.IsCandid

/-- What comes of one option is like what comes of the other. -/
def Node.Interchangeable (left right : Choice Item) : Prop :=
  ∀ next next', next.Even next' → (Node.scriptChosen left next).Even (Node.scriptChosen right next')

mutual

/-- No code of the author builds a part of the node, and where options must not be repeated it does
not matter which is chosen. -/
def Node.IsEven : Node → Prop
  | .null => True
  | .group nodes => Node.AllEven nodes
  | .leaf leaf => leaf.IsSpoken
  | .tool _ => True
  | .oneOf options none => Node.OptionsEven options
  | .oneOf options (some rule) => rule.IsCandid ∧
      ∀ left ∈ options, ∀ right ∈ options, Node.Interchangeable left right
  | .times _ node => node.IsEven
  | .optional node _ => node.IsEven
  | .metadata change => change.IsCandid
  | .dynamic _ => False
  | .unknown => True

def Node.AllEven : List Node → Prop
  | [] => True
  | node :: nodes => node.IsEven ∧ Node.AllEven nodes

def Item.IsEven : Item → Prop
  | .node one => one.IsEven
  | .list items => Item.AllEven items
  | .tuple items => Item.AllEven items
  | .weighted _ _ => True
  | .mapping _ => True
  | .datum _ => True

def Item.AllEven : List Item → Prop
  | [] => True
  | item :: items => item.IsEven ∧ Item.AllEven items

def Node.OptionsEven : List (Choice Item) → Prop
  | [] => True
  | option :: options => Node.OptionEven option ∧ Node.OptionsEven options

def Node.OptionEven : Choice Item → Prop
  | .plain item => item.IsEven
  | .weighted item _ => item.IsEven
  | .entry item _ _ => item.IsEven

end

namespace Script.Even

variable {α : Type} {next next' : α → Script}

theorem fail {error : Error} (unskewed : error.Unskewed) : (fail error).Even (.fail error) :=
  ⟨.failed error _, .fail unskewed, .fail unskewed⟩

theorem ofExcept (rest : ∀ value, (next value).Even (next' value)) {result : Except Error α}
    (candid : Candid result) : (Script.ofExcept next result).Even (.ofExcept next' result) := by
  cases result with
  | ok value => exact rest value
  | error error => exact .fail (candid error rfl)

theorem ofDrawing (rest : ∀ value, (next value).Even (next' value))
    {drawing : Drawing Float (Except Error α)} (candid : drawing.IsCandid) :
    (Script.ofDrawing next drawing).Even (.ofDrawing next' drawing) := by
  induction drawing with
  | done result => exact .ofExcept rest candid
  | draw further ih =>
      exact ⟨.draw fun value => (ih value (candid value)).alike,
        .draw fun value => (ih value (candid value)).left,
        .draw fun value => (ih value (candid value)).right⟩

theorem count {next next' : Nat → Script} (rest : ∀ number, (next number).Even (next' number))
    (count : Count) : (count.script next).Even (count.script next') := by
  cases count with
  | fixed count =>
      refine .ofExcept rest ?_
      unfold Count.repetitions
      split
      · split
        · exact .error fun skew => nomatch skew
        · exact .ok _
      · exact .error fun skew => nomatch skew
  | between minimum maximum =>
      refine .ofDrawing (fun number => .ofExcept rest ?_) (Selection.candid_betweenBounds _ _)
      unfold Count.drawnRepetitions
      split
      · exact .ok _
      · exact .error fun skew => nomatch skew

theorem «repeat» {before : Script → Script}
    (keeps : ∀ left right : Script, left.Even right → (before left).Even (before right))
    {next next' : Script} (rest : next.Even next') (number : Nat) :
    (Nat.repeat before number next).Even (Nat.repeat before number next') := by
  induction number with
  | zero => exact rest
  | succ number ih => exact keeps _ _ ih

end Script.Even

theorem Node.scriptOption_of_lt {options : List (Choice Item)} {place : Nat}
    (inside : place < options.length) (next : Script) :
    Node.scriptOption options place next = Node.scriptChosen options[place] next := by
  induction options generalizing place with
  | nil => exact absurd inside (Nat.not_lt_zero _)
  | cons option options ih =>
      cases place with
      | zero => rw [Node.scriptOption, List.getElem_cons_zero]
      | succ place =>
          rw [Node.scriptOption, List.getElem_cons_succ]
          exact ih _

theorem Node.scriptOption_of_le {options : List (Choice Item)} {place : Nat}
    (outside : options.length ≤ place) (next : Script) :
    Node.scriptOption options place next = next := by
  induction options generalizing place with
  | nil => rw [Node.scriptOption]
  | cons option options ih =>
      cases place with
      | zero => exact absurd outside (by simp)
      | succ place =>
          rw [Node.scriptOption]
          exact ih (Nat.le_of_succ_le_succ outside)

/-- Two messages by the same speaker, or two uses of tools of the same kind, are interchangeable. -/
theorem Node.interchangeable_leaves {left right : Choice Item} {leaf leaf' : Leaf}
    (here : left.item = .node (.leaf leaf)) (there : right.item = .node (.leaf leaf'))
    (kind : leaf.kind = leaf'.kind) (speaker : leaf.speaker = leaf'.speaker)
    (spoken : leaf.IsSpoken) (spoken' : leaf'.IsSpoken) : Node.Interchangeable left right := by
  have made {option : Choice Item} {leaf : Leaf} (item : option.item = .node (.leaf leaf))
      (next : Script) : Node.scriptChosen option next = .entry leaf next := by
    cases option <;> cases item <;> rfl
  intro next next' rest
  rw [made here, made there]
  exact ⟨.entry kind speaker rest.alike, .entry spoken rest.left, .entry spoken' rest.right⟩

mutual

theorem Node.even_script {next next' : Script} (rest : next.Even next') :
    ∀ node : Node, node.IsEven → (node.script next).Even (node.script next')
  | .null, _ => by
      rw [Node.script, Node.script]
      exact rest
  | .group nodes, even => by
      rw [Node.script, Node.script]
      exact Node.even_scriptAll rest nodes even
  | .leaf leaf, spoken => by
      rw [Node.script, Node.script]
      exact ⟨.entry rfl rfl rest.alike, .entry spoken rest.left, .entry spoken rest.right⟩
  | .tool definition, _ => by
      rw [Node.script, Node.script]
      exact ⟨.list rest.alike, .list rest.left, .list rest.right⟩
  | .oneOf options none, even => by
      have chosen := Node.even_scriptOption rest options even
      rw [Node.script, Node.script]
      exact ⟨.repeatable fun place => (chosen place).alike,
        .choose (fun _ absent => nomatch absent) fun place => (chosen place).left,
        .choose (fun _ absent => nomatch absent) fun place => (chosen place).right⟩
  | .oneOf options (some rule), even => by
      -- The two phases may choose different options, so that each has to go with each.
      have chosen (place : Nat) : (Node.scriptOption options place next).Even
          (Node.scriptOption options place next') := by
        rcases Nat.lt_or_ge place options.length with inside | outside
        · rw [Node.scriptOption_of_lt inside, Node.scriptOption_of_lt inside]
          have member := List.getElem_mem inside
          exact even.2 _ member _ member next next' rest
        · rw [Node.scriptOption_of_le outside, Node.scriptOption_of_le outside]
          exact rest
      have candid (given : Unique.UniqueBy) (same : some rule = some given) : given.IsCandid := by
        cases same
        exact even.1
      rw [Node.script, Node.script]
      refine ⟨.choose fun place place' inside inside' => ?_, .choose candid fun place =>
        (chosen place).left, .choose candid fun place => (chosen place).right⟩
      rw [List.length_map] at inside inside'
      rw [Node.scriptOption_of_lt inside, Node.scriptOption_of_lt inside']
      exact (even.2 _ (List.getElem_mem inside) _ (List.getElem_mem inside') next next' rest).alike
  | .times count node, even => by
      rw [Node.script, Node.script]
      exact .count (fun number =>
        .repeat (fun _ _ rest => Node.even_script rest node even) rest number) count
  | .optional node probability, even => by
      rw [Node.script, Node.script]
      refine .ofDrawing (fun included => ?_) (Selection.candid_chance probability)
      cases included with
      | false => exact rest
      | true => exact Node.even_script rest node even
  | .metadata change, candid => by
      rw [Node.script, Node.script]
      exact ⟨.update rest.alike, .update candid rest.left, .update candid rest.right⟩
  | .unknown, _ => by
      rw [Node.script, Node.script]
      exact .fail fun skew => nomatch skew

theorem Node.even_scriptAll {next next' : Script} (rest : next.Even next') :
    ∀ nodes : List Node, Node.AllEven nodes →
      (Node.scriptAll nodes next).Even (Node.scriptAll nodes next')
  | [], _ => by
      rw [Node.scriptAll, Node.scriptAll]
      exact rest
  | node :: nodes, even => by
      rw [Node.scriptAll, Node.scriptAll]
      exact Node.even_script (Node.even_scriptAll rest nodes even.2) node even.1

theorem Item.even_scriptNodes {next next' : Script} (rest : next.Even next') :
    ∀ item : Item, item.IsEven → (item.scriptNodes next).Even (item.scriptNodes next')
  | .node one, even => by
      rw [Item.scriptNodes, Item.scriptNodes]
      exact Node.even_script rest one even
  | .list items, even => by
      rw [Item.scriptNodes, Item.scriptNodes]
      exact Item.even_scriptAll rest items even
  | .tuple items, even => by
      rw [Item.scriptNodes, Item.scriptNodes]
      exact Item.even_scriptAll rest items even
  | .weighted _ _, _ => by
      rw [Item.scriptNodes, Item.scriptNodes]
      exact rest
  | .mapping _, _ => by
      rw [Item.scriptNodes, Item.scriptNodes]
      exact rest
  | .datum _, _ => by
      rw [Item.scriptNodes, Item.scriptNodes]
      exact rest

theorem Item.even_scriptAll {next next' : Script} (rest : next.Even next') :
    ∀ items : List Item, Item.AllEven items →
      (Item.scriptAll items next).Even (Item.scriptAll items next')
  | [], _ => by
      rw [Item.scriptAll, Item.scriptAll]
      exact rest
  | item :: items, even => by
      rw [Item.scriptAll, Item.scriptAll]
      exact Item.even_scriptNodes (Item.even_scriptAll rest items even.2) item even.1

theorem Node.even_scriptOption {next next' : Script} (rest : next.Even next') :
    ∀ options : List (Choice Item), Node.OptionsEven options → ∀ place : Nat,
      (Node.scriptOption options place next).Even (Node.scriptOption options place next')
  | [], _, _ => by
      rw [Node.scriptOption, Node.scriptOption]
      exact rest
  | .plain item :: _, even, 0 => by
      rw [Node.scriptOption, Node.scriptOption, Node.scriptChosen, Node.scriptChosen]
      exact Item.even_script rest item even.1
  | .weighted item _ :: _, even, 0 => by
      rw [Node.scriptOption, Node.scriptOption, Node.scriptChosen, Node.scriptChosen]
      exact Item.even_script rest item even.1
  | .entry item _ _ :: _, even, 0 => by
      rw [Node.scriptOption, Node.scriptOption, Node.scriptChosen, Node.scriptChosen]
      exact Item.even_script rest item even.1
  | _ :: options, even, place + 1 => by
      rw [Node.scriptOption, Node.scriptOption]
      exact Node.even_scriptOption rest options even.2 place

theorem Item.even_script {next next' : Script} (rest : next.Even next') :
    ∀ item : Item, item.IsEven → (item.script next).Even (item.script next')
  | item, even => by
      unfold Item.script
      cases fault : item.fault? with
      | some error => exact .fail (Item.unskewed_of_fault fault)
      | none => exact Item.even_scriptNodes rest item even

end

mutual

theorem Datum.even_of_toNode : ∀ {value : Datum} {node : Node}, value.toNode = .ok node → node.IsEven
  | .null, _, same => by
      cases same
      trivial
  | .list _, _, same => by
      obtain ⟨nodes, made, rfl⟩ := map_eq_ok.1 same
      exact Datum.allEven_of_toNodes made
  | .tuple _, _, same => by
      obtain ⟨nodes, made, rfl⟩ := map_eq_ok.1 same
      exact Datum.allEven_of_toNodes made

theorem Datum.allEven_of_toNodes : ∀ {items : List Datum} {nodes : List Node},
    Datum.toNodes items = .ok nodes → Node.AllEven nodes
  | [], _, same => by
      cases same
      trivial
  | _ :: _, _, same => by
      obtain ⟨first, made, same⟩ := bind_eq_ok.1 same
      obtain ⟨others, rest, same⟩ := bind_eq_ok.1 same
      cases same
      exact ⟨Datum.even_of_toNode made, Datum.allEven_of_toNodes rest⟩

end

mutual

theorem Item.even_of_toNode : ∀ {item : Item} {node : Node}, item.IsEven → item.toNode = .ok node →
    node.IsEven
  | .node _, _, even, same => by
      cases same
      exact even
  | .list _, _, even, same => by
      obtain ⟨nodes, made, rfl⟩ := map_eq_ok.1 same
      exact Item.allEven_of_toNodes even made
  | .tuple _, _, even, same => by
      obtain ⟨nodes, made, rfl⟩ := map_eq_ok.1 same
      exact Item.allEven_of_toNodes even made
  | .datum _, _, _, same => Datum.even_of_toNode same
  | .weighted _ _, _, _, same => Datum.even_of_toNode same
  | .mapping _, _, _, same => Datum.even_of_toNode same

theorem Item.allEven_of_toNodes : ∀ {items : List Item} {nodes : List Node}, Item.AllEven items →
    Item.toNodes items = .ok nodes → Node.AllEven nodes
  | [], _, _, same => by
      cases same
      trivial
  | _ :: _, _, even, same => by
      obtain ⟨first, made, same⟩ := bind_eq_ok.1 same
      obtain ⟨others, rest, same⟩ := bind_eq_ok.1 same
      cases same
      exact ⟨Item.even_of_toNode even.1 made, Item.allEven_of_toNodes even.2 rest⟩

end

/-- No pool sways the schema, and it raises no error of skew itself. -/
structure Schema.IsSteady (schema : Schema) : Prop where
  resolves : Candid schema.resolve
  candid : ∀ root, schema.resolve = .ok root → (root.script .done).IsCandid
  unswayed : ∀ root, schema.resolve = .ok root → (root.script .done).Unswayed

theorem Schema.resolve_tree (root : Item) :
    (Schema.tree root).resolve = root.toNode.map .node ∨
      ∃ shown, (Schema.tree root).resolve = .error (.schema (.notSchema shown)) := by
  cases root with
  | datum value =>
      unfold resolve
      dsimp only
      split
      · exact .inl rfl
      · exact .inr ⟨_, rfl⟩
  | _ => exact .inl rfl

/-- A tree that is even is steady. -/
theorem Schema.isSteady_tree {root : Item} (even : root.IsEven) : (Schema.tree root).IsSteady := by
  have resolved (item : Item) (same : (Schema.tree root).resolve = .ok item) :
      (item.script .done).Even (item.script .done) := by
    rcases Schema.resolve_tree root with made | ⟨shown, refused⟩
    · rw [made] at same
      obtain ⟨node, made, rfl⟩ := map_eq_ok.1 same
      exact Item.even_script ⟨.done, .done, .done⟩ _ (Item.even_of_toNode even made)
    · rw [refused] at same
      cases same
  refine ⟨?_, fun item same => (resolved item same).left,
    fun item same => (resolved item same).alike.unswayed⟩
  rcases Schema.resolve_tree root with made | ⟨shown, refused⟩
  · rw [made]
    exact root.candid_toNode.map _
  · rw [refused]
    exact .error fun skew => nomatch skew

end Colloquy
