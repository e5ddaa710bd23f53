/-
# What is written about an event

The templates of the messages are texts with a few bare directives in them, so that the message of
an event can be said in closed form: `Event.text`.  It follows that the record of an event has a
line whenever the numbers in it can be shown.  A logger that writes JSON objects writes one line for
each event that is weighty enough, in the order in which they happen, and since no line has a line
feed in it, cutting what was written at the line feeds gives these lines back.
-/
import CssMargin.Proofs.Log.Actions
import CssMargin.Proofs.Log.JsonLine
namespace CssMargin

/-! ### Lines -/

namespace Text

variable {x : Char} {s : List Char}

/-- A text without the character is one piece. -/
lemma cutAt_append (h : x ∉ s) (t : List Char) : cutAt x (s ++ x :: t) = s :: cutAt x t := by
  induction s with
  | nil => rw [List.nil_append, cutAt, if_pos rfl]
  | cons c r ih =>
    have hc : c ≠ x := fun hcx => h (hcx ▸ List.mem_cons_self ..)
    rw [List.cons_append, cutAt, if_neg hc, ih fun hr => h (List.mem_cons_of_mem _ hr)]

/-- Lines that end with a character are found again by cutting at it.  Behind the last end of a line
there is an empty piece. -/
lemma cutAt_flatMap_lines {lines : List (List Char)} (h : ∀ l ∈ lines, x ∉ l) :
    cutAt x (lines.flatMap (· ++ [x])) = lines ++ [[]] := by
  induction lines with
  | nil => rfl
  | cons l r ih =>
    rw [List.flatMap_cons, List.append_assoc, List.singleton_append,
      cutAt_append (h l (List.mem_cons_self ..)),
      ih fun l' hl' => h l' (List.mem_cons_of_mem _ hl')]
    rfl

end Text

namespace Log

/-! ### Filling a template -/

/-- A directive that has a letter and nothing else. -/
def Directive.bare (letter : Char) (position : Nat) : Directive :=
  ⟨.absent, .of [], .absent, .absent, some letter, position⟩

section Filling

variable {ps : List Piece} {items : List Value} {t : Text} (cs : String) (position : Nat)

/-- Characters stand for themselves. -/
lemma fillPieces_append (cs : List Char) (ps : List Piece) (s : Supply) :
    fillPieces (cs.map .char ++ ps) s = (cs.map .char ++ ·) <$> fillPieces ps s := by
  induction cs with
  | nil =>
    rw [List.map_nil, List.nil_append]
    cases fillPieces ps s <;> rfl
  | cons c cs ih =>
    rw [List.map_cons, List.cons_append, fillPieces, ih]
    cases fillPieces ps s <;> rfl

/-- The end of a template, when all arguments are used up. -/
lemma fillPieces_end :
    fillPieces (cs.toList.map .char) (.sequence []) = .ok (Text.points cs) := by
  have h := fillPieces_append cs.toList [] (.sequence [])
  rw [List.append_nil] at h
  rw [h, Text.points_coe]
  exact congrArg Except.ok (List.append_nil _)

/-- Without a width nothing is filled up. -/
lemma Figure.pad_zero (figure : Figure) (left zeros : Bool) :
    figure.pad left zeros 0 = figure.text := by
  rw [Figure.pad, Nat.zero_sub, Figure.text]
  cases left <;> cases zeros <;> simp

/-- A bare directive shows what its letter makes of the next argument. -/
lemma fillPieces_bare {letter : Char} {v : Value} (shown : Text) (isNumber : Bool)
    (hv : convert (.of []) none letter position v = .ok (⟨[], [], shown.points⟩, isNumber))
    (h : fillPieces ps (.sequence items) = .ok t.points) :
    fillPieces (cs.toList.map .char ++ .directive (.bare letter position) :: ps)
      (.sequence (v :: items)) = .ok (cs ++ (shown ++ t)).points := by
  have hshown : fillDirective (.bare letter position) (.sequence (v :: items)) =
      .ok (shown.points, .sequence items) := by
    change convert (.of []) none letter position v >>= _ = _
    rw [hv]
    exact congrArg (fun text => Except.ok (text, Supply.sequence items)) (Figure.pad_zero _ _ _)
  rw [fillPieces_append, fillPieces, hshown, Text.points_append, Text.points_append,
    Text.points_coe]
  change Except.map _ (Except.map _ (fillPieces ps (.sequence items))) = _
  rw [h]
  rfl

/-- A number is shown by its digits. -/
lemma fillPieces_number (h : fillPieces ps (.sequence items) = .ok t.points) {n : Nat}
    (hn : Text.isLongInteger n = false) :
    fillPieces (cs.toList.map .char ++ .directive (.bare 'd' position) :: ps)
      (.sequence (.int n :: items)) = .ok (cs ++ ((toString n : String) ++ t)).points := by
  have hfigure : integerFigure (.of []) none 'd' n =
      ⟨[], [], Text.points (toString n : String)⟩ := by
    simp [integerFigure, signOf, Flags.of]
  refine fillPieces_bare cs position _ true ?_ h
  change (if Text.isLongInteger n then _ else _) = _
  rw [hn, ← hfigure]
  rfl

/-- A text is shown as it is. -/
lemma fillPieces_text (h : fillPieces ps (.sequence items) = .ok t.points) (s : Text) :
    fillPieces (cs.toList.map .char ++ .directive (.bare 's' position) :: ps)
      (.sequence (.text s :: items)) = .ok (cs ++ (s ++ t)).points :=
  fillPieces_bare cs position s false rfl h

end Filling

/-- A message is made of the pieces of its template; its first argument is a number here. -/
lemma message_eq_ok {template : String} {ps : List Piece} {n : Int} {items : List Value}
    {t : Text} (hpieces : pieces template.toList = ps)
    (h : fillPieces ps (.sequence (.int n :: items)) = .ok t.points) :
    message template (.int n :: items) = .ok t := by
  have hsequence : Arguments.of (.int n :: items) = .sequence (.int n :: items) := by
    cases items <;> rfl
  rw [message, hsequence]
  change Text.ofPoints <$> fillPieces (pieces template.toList) (.sequence (.int n :: items)) = _
  rw [hpieces, h]
  exact congrArg Except.ok (Text.ofPoints_points t)

/-! ### The messages of events -/

/-- What is said of an event. -/
def Event.text : Event → Text
  | .notExpanded arity => "margin shorthand with " ++ (toString arity ++ " values not expanded")
  | .expanded arity => "expanded margin with " ++ (toString arity ++ " values")
  | .expanding index arity =>
    "declarations[" ++ (toString index ++ ("]: margin with " ++ (toString arity ++ " values")))
  | .fileExpanded count path =>
    "expanded " ++ ((toString count : String) ++ (" shorthands from " ++ path))

/-- The numbers that are shown of an event. -/
def Event.shownNumbers : Event → List Nat
  | .notExpanded arity | .expanded arity => [arity]
  | .expanding index arity => [index, arity]
  | .fileExpanded count _ => [count]

/-- Whether none of the numbers that are shown of an event has too many digits. -/
def Event.Showable (e : Event) : Prop := ∀ n ∈ e.shownNumbers, Text.isLongInteger n = false

/-- The message of the record of an event is what is said of it. -/
lemma Event.Showable.message_record {e : Event} (h : e.Showable) (time : Moment) :
    (e.record time).message = .ok e.text := by
  have hlevel : Text.isLongInteger (e.record time).level = false := by
    cases e <;> (dsimp only [Event.record]; decide)
  rw [Record.message, if_neg (Bool.eq_false_iff.1 hlevel)]
  cases e with
  | notExpanded arity =>
    have harity := h arity (List.mem_cons_self ..)
    dsimp only [Event.record]
    exact message_eq_ok (by decide +kernel) (fillPieces_number "margin shorthand with " 23
      (fillPieces_end " values not expanded") harity)
  | expanded arity =>
    have harity := h arity (List.mem_cons_self ..)
    dsimp only [Event.record]
    exact message_eq_ok (by decide +kernel) (fillPieces_number "expanded margin with " 22
      (fillPieces_end " values") harity)
  | expanding index arity =>
    have hindex := h index (List.mem_cons_self ..)
    have harity := h arity (List.mem_cons_of_mem _ (List.mem_cons_self ..))
    dsimp only [Event.record]
    exact message_eq_ok (by decide +kernel) (fillPieces_number "declarations[" 14
      (fillPieces_number "]: margin with " 31 (fillPieces_end " values") harity) hindex)
  | fileExpanded count path =>
    have hcount := h count (List.mem_cons_self ..)
    have hend := fillPieces_text " shorthands from " 29 (fillPieces_end "") path
    rw [Text.append_empty] at hend
    dsimp only [Event.record]
    exact message_eq_ok (by decide +kernel) (fillPieces_number "expanded " 10 hend hcount)

/-! ### The objects of events -/

/-- The numbers that go with an event. -/
def Event.numbers : Event → List (String × Nat)
  | .notExpanded arity | .expanded arity => [("arity", arity)]
  | .expanding index arity => [("arity", arity), ("index", index)]
  | .fileExpanded _ _ => []

/-- The members of the record of an event. -/
def Event.members (time : Moment) (e : Event) : List (Text × Json) :=
  (e.record time).members e.text

/-- The line that an object takes. -/
def objectLine (ms : List (Text × Json)) : List Char :=
  (Json.write .record (.object ms)).toList

section Members

variable (time : Moment) (e : Event)

lemma Event.members_eq : e.members time =
    ([("timestamp", .text (({ time with offset := some 0 } : Moment).text "T")),
      ("level", .text (levelText (e.record time).level)),
      ("logger", .text (e.record time).logger), ("message", .text e.text)] : List (Text × Json)) ++
    e.numbers.map fun c => ((c.1 : Text), .int c.2) := by
  cases e <;> rfl

/-- The further fields of the record of an event are numbers that are shown of it. -/
lemma Event.eq_int_of_written? {k : String} {j : Json} (h : (e.record time).written? k = some j) :
    ∃ n ∈ e.shownNumbers, j = .int n := by
  have hfields : ∀ f ∈ (e.record time).fields, ∃ n ∈ e.shownNumbers, f.2 = .int n := by
    cases e <;> simp [Event.record, Event.shownNumbers]
  have hlookup := (Option.filter_eq_some_iff.1 h).1
  obtain ⟨l, l', hl, -⟩ := List.lookup_eq_some_iff.1 hlookup
  exact hfields (k, j) (hl ▸ List.mem_append_right l (List.mem_cons_self ..))

lemma Event.integral_members : Json.Integral (.object (e.members time)) := by
  refine .object ((e.record time).forall_members (.text ·) (.text _) fun k _ j hj => ?_)
  obtain ⟨n, -, rfl⟩ := e.eq_int_of_written? time hj
  exact .int n

variable {e}

/-- What is said of an event is read again if no two halves in it make up a pair. -/
lemma Event.read_objectLine (h : e.Showable) (hpaired : Json.Unpaired e.text.points) :
    Json.read (objectLine (e.members time)) = .ok (.object (e.members time)) := by
  have hreadable : Json.Readable (.object (e.members time)) := by
    refine Record.readable_members (fun k _ j hj => ?_) hpaired
    obtain ⟨n, hn, rfl⟩ := e.eq_int_of_written? time hj
    exact .int (Nat.not_lt.1 (of_decide_eq_false (h n hn)))
  have hblank : Json.Blank [] := fun c hc => by cases hc
  have hread := Json.read_writeAt hreadable .record hblank
  rw [List.append_nil, hreadable.arranged_eq_self rfl] at hread
  rw [objectLine, Json.write, String.toList_ofList, hread]

/-- The line of an event is one line, whatever is in its message. -/
lemma Event.lineFeed_notMem_objectLine (e : Event) : '\n' ∉ objectLine (e.members time) := by
  intro hmem
  rw [objectLine, Json.write, String.toList_ofList] at hmem
  have hlow := (e.integral_members time).forall_mem_writeAt
    (Json.Layout.usesOnly_of_indent (l := .record) rfl) 0 _ hmem
  exact absurd hlow (by decide)

end Members

/-! ### What a logger writes -/

section Logger

variable {n : Int} (hn : n ≠ unsetLevel) (time : Moment)

include hn

lemma Logger.threshold_of_ne (propagates : Bool) (handlers : List LogFormat) :
    (⟨n, propagates, handlers⟩ : Logger).threshold = n := if_neg hn

/-- A logger writes the object of an event if the event is weighty enough. -/
lemma Logger.write_event {e : Event} (h : e.Showable) :
    (⟨n, false, [.json]⟩ : Logger).write (e.record time) =
      if n ≤ (e.record time).level then
        String.ofList (objectLine (e.members time)) ++ "\n" else "" := by
  have hset : Logger.IsSetUp ⟨n, false, [.json]⟩ (some (n, .json)) := rfl
  have hline : formatted (some (n, .json)) (e.record time) =
      .ok (String.ofList (objectLine (e.members time))) := by
    have hfields : Json.anyLongMember (e.record time).shownFields = false := by
      refine (e.record time).anyLongMember_shownFields fun k _ j hj => ?_
      obtain ⟨n, hn, rfl⟩ := e.eq_int_of_written? time hj
      exact h n hn
    rw [formatted, LogFormat.line, Record.jsonLine, h.message_record time, ok_bind, hfields,
      objectLine, String.ofList_toList]
    rfl
  rw [hset.write hline, Logger.threshold_of_ne hn]

/-- Cutting what was written at the line feeds gives the lines of the weighty events, in their
order. -/
lemma cutAt_join_write {es : List Event} (h : ∀ e ∈ es, e.Showable) :
    Text.cutAt '\n'
        (String.join (es.map fun e =>
          (⟨n, false, [.json]⟩ : Logger).write (e.record time))).toList =
      (es.filter fun e => n ≤ (e.record time).level).map
        (fun e => objectLine (e.members time)) ++ [[]] := by
  have hlines : (String.join (es.map fun e =>
        (⟨n, false, [.json]⟩ : Logger).write (e.record time))).toList =
      ((es.filter fun e => n ≤ (e.record time).level).map
        fun e => objectLine (e.members time)).flatMap (· ++ ['\n']) := by
    rw [String.toList_join]
    induction es with
    | nil => rfl
    | cons e r ih =>
      obtain ⟨he, hr⟩ := List.forall_mem_cons.1 h
      rw [List.map_cons, List.flatMap_cons, ih hr, Logger.write_event hn time he]
      by_cases he : n ≤ (e.record time).level
      · rw [if_pos he, List.filter_cons_of_pos (by simpa using he), List.map_cons,
          List.flatMap_cons, String.toList_append, String.toList_ofList]
        rfl
      · rw [if_neg he, List.filter_cons_of_neg (by simpa using he)]
        rfl
  rw [hlines]
  refine Text.cutAt_flatMap_lines fun l hl => ?_
  obtain ⟨e, -, rfl⟩ := List.mem_map.1 hl
  exact Event.lineFeed_notMem_objectLine time e

/-- Nothing is written of events that are not weighty enough, in no format. -/
lemma join_write_eq_empty (f : LogFormat) {es : List Event}
    (h : ∀ e ∈ es, (e.record time).level < n) :
    String.join (es.map fun e => (⟨n, false, [f]⟩ : Logger).write (e.record time)) = "" := by
  induction es with
  | nil => rfl
  | cons e r ih =>
    have he : (e.record time).level < (⟨n, false, [f]⟩ : Logger).threshold := by
      rw [Logger.threshold_of_ne hn]
      exact h e (List.mem_cons_self ..)
    rw [List.map_cons, String.join_cons, Logger.write_of_lt he,
      ih fun e' he' => h e' (List.mem_cons_of_mem _ he')]
    rfl

end Logger

end Log

end CssMargin
