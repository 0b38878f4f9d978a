import Hypermedia.Json
import Hypermedia.Proofs.Text.Digits

/-!
JSON texts tell their values apart. Each text shows by itself where it ends, but
for numbers, which end where no digit follows. So whatever stands behind two
texts, if the whole is the same, the values are, and what stands behind them is.
The layout always puts a comma or a line break behind a value inside another
one.
-/

namespace Hypermedia.Json

/-- What may stand behind a value: anything that does not go on with a number. -/
def Closes (rest : List Char) : Prop :=
  ∀ c ∈ rest.head?, c.isDigit = false

section Characters

/-- The value of a digit to the base sixteen. -/
def hexValue (c : Char) : Nat :=
  if c.isDigit then c.toNat - '0'.toNat else c.toNat - 'a'.toNat + 10

/-- The first character of a text in quotes and the rest of the text, unless the
text ends here. -/
def firstChar? : List Char → Option (Char × List Char)
  | [] => none
  | '"' :: _ => none
  | '\\' :: 'u' :: '0' :: '0' :: high :: low :: rest =>
      some (Char.ofNat (16 * hexValue high + hexValue low), rest)
  | '\\' :: 'b' :: rest => some ('\x08', rest)
  | '\\' :: 't' :: rest => some ('\t', rest)
  | '\\' :: 'n' :: rest => some ('\n', rest)
  | '\\' :: 'f' :: rest => some ('\x0c', rest)
  | '\\' :: 'r' :: rest => some ('\r', rest)
  | '\\' :: c :: rest => some (c, rest)
  | c :: rest => some (c, rest)

theorem hexValue_digitChar {n : Nat} (h : n < 16) : hexValue (Nat.digitChar n) = n := by
  have hall : ∀ n < 16, hexValue (Nat.digitChar n) = n := by decide
  exact hall n h

theorem firstChar?_of_plain {c : Char} (hquote : c ≠ '"') (hslash : c ≠ '\\')
    (rest : List Char) : firstChar? (c :: rest) = some (c, rest) := by
  unfold firstChar?
  split <;> simp_all

/-- Each character is found at the start of what stands for it. -/
theorem firstChar?_escaped (c : Char) (rest : List Char) :
    firstChar? ((escaped c).toList ++ rest) = some (c, rest) := by
  unfold escaped
  split
  case h_8 hquote hslash _ _ _ _ _ =>
    split
    next hcontrol =>
      have hhigh : hexValue (Nat.digitChar (c.toNat / 16)) = c.toNat / 16 :=
        hexValue_digitChar (by omega)
      have hlow : hexValue (Nat.digitChar (c.toNat % 16)) = c.toNat % 16 :=
        hexValue_digitChar (by omega)
      have hcode : 16 * (c.toNat / 16) + c.toNat % 16 = c.toNat := Nat.div_add_mod _ _
      simp [firstChar?, hhigh, hlow, hcode, Char.ofNat_toNat]
    next =>
      rw [String.toList_singleton]
      exact firstChar?_of_plain hquote hslash rest
  all_goals rfl

theorem toList_quoted (text : String) :
    (quoted text).toList =
      '"' :: (text.toList.flatMap (fun c => (escaped c).toList) ++ ['"']) := by
  simp [quoted, List.flatMap, Function.comp_def]

theorem escaped_cancel {cs ds x y : List Char}
    (h : cs.flatMap (fun c => (escaped c).toList) ++ '"' :: x =
      ds.flatMap (fun c => (escaped c).toList) ++ '"' :: y) : cs = ds ∧ x = y := by
  induction cs generalizing ds with
  | nil =>
      cases ds with
      | nil => simpa using h
      | cons d ds =>
          have hfirst := congrArg firstChar? h
          rw [List.flatMap_cons, List.append_assoc, firstChar?_escaped] at hfirst
          cases hfirst
  | cons c cs ih =>
      rw [List.flatMap_cons, List.append_assoc] at h
      have hfirst := congrArg firstChar? h
      rw [firstChar?_escaped] at hfirst
      cases ds with
      | nil => cases hfirst
      | cons d ds =>
          rw [List.flatMap_cons, List.append_assoc, firstChar?_escaped] at hfirst
          obtain ⟨rfl, hrest⟩ := Prod.mk.inj (Option.some.inj hfirst)
          obtain ⟨rfl, hxy⟩ := ih hrest
          exact ⟨rfl, hxy⟩

/-- A text in quotes ends with its second quote. -/
theorem quoted_cancel {a b : String} {x y : List Char}
    (h : (quoted a).toList ++ x = (quoted b).toList ++ y) : a = b ∧ x = y := by
  simp only [toList_quoted, List.cons_append, List.append_assoc, List.nil_append,
    List.cons.injEq, true_and] at h
  obtain ⟨htext, hxy⟩ := escaped_cancel h
  exact ⟨String.toList_injective htext, hxy⟩

end Characters

/-- A number ends with its last digit. -/
theorem number_cancel {n k : Nat} {x y : List Char} (hx : Closes x) (hy : Closes y)
    (h : (toString n).toList ++ x = (toString k).toList ++ y) : n = k ∧ x = y := by
  simp only [Nat.toString_eq_repr, Nat.toList_repr] at h
  have hfirst := Text.maximalRun_toDigits n hx
  have hsecond := Text.maximalRun_toDigits k hy
  have hdigits : Nat.toDigits 10 n = Nat.toDigits 10 k := by
    rw [← hfirst.takeWhile_eq, h, hsecond.takeWhile_eq]
  have hxy : x = y := by
    rw [← hfirst.dropWhile_eq, h, hsecond.dropWhile_eq]
  exact ⟨Text.toDigits_injective hdigits, hxy⟩

section Openings

/-- What the first character of a text tells about its value. -/
def kindOf (c : Char) : Char :=
  if c.isDigit then '0' else if c = 'f' then 't' else c

/-- The kind of first character that a value has. -/
def opening : Json → Char
  | .boolean _ => 't'
  | .number _ => '0'
  | .text _ => '"'
  | .array _ => '['
  | .object _ => '\x7b'

theorem kindOf_head (depth : Nat) (json : Json) :
    (json.written depth).toList.head?.map kindOf = some json.opening := by
  cases json with
  | boolean value => cases value <;> simp [written, kindOf, opening]
  | number value =>
      obtain ⟨d, ds, hrun, hd⟩ := Text.exists_cons_toDigits value
      simp [written, Nat.toString_eq_repr, Nat.toList_repr, hrun, kindOf, hd, opening]
  | text value => simp [written, toList_quoted, kindOf, opening]
  | array items => cases items <;> simp [written, kindOf, opening]
  | object fields => cases fields <;> simp [written, kindOf, opening]

theorem opening_eq {depth : Nat} {a b : Json} {x y : List Char}
    (h : (a.written depth).toList ++ x = (b.written depth).toList ++ y) :
    a.opening = b.opening := by
  have hhead : ∀ (json : Json) (rest : List Char),
      ((json.written depth).toList ++ rest).head?.map kindOf = some json.opening := by
    intro json rest
    rw [← kindOf_head depth json, List.head?_append]
    cases hfirst : (json.written depth).toList.head? with
    | none =>
        have hkind := kindOf_head depth json
        simp [hfirst] at hkind
    | some c => rfl
  exact Option.some.inj (by rw [← hhead a x, h, hhead b y])

end Openings

section Layout

theorem toList_lineBreak (depth : Nat) :
    (lineBreak depth).toList = '\n' :: List.replicate (2 * depth) ' ' := by
  simp [lineBreak]

theorem closes_lineBreak (depth : Nat) (rest : List Char) :
    Closes ((lineBreak depth).toList ++ rest) := by
  rw [toList_lineBreak]
  intro c hc
  obtain rfl : '\n' = c := by simpa using hc
  rfl

theorem closes_writtenItems (depth : Nat) (items : List Json) {rest : List Char}
    (h : Closes rest) : Closes ((writtenItems depth items).toList ++ rest) := by
  cases items with
  | nil => simpa [writtenItems] using h
  | cons item others =>
      intro c hc
      obtain rfl : ',' = c := by simpa [writtenItems] using hc
      rfl

theorem closes_writtenFields (depth : Nat) (fields : List (String × Json)) {rest : List Char}
    (h : Closes rest) : Closes ((writtenFields depth fields).toList ++ rest) := by
  cases fields with
  | nil => simpa [writtenFields] using h
  | cons field others =>
      intro c hc
      obtain rfl : ',' = c := by simpa [writtenFields] using hc
      rfl

end Layout

mutual

/-- A value ends where its text does. -/
theorem written_cancel (depth : Nat) (a b : Json) {x y : List Char} (hx : Closes x)
    (hy : Closes y) (h : (a.written depth).toList ++ x = (b.written depth).toList ++ y) :
    a = b ∧ x = y := by
  have hopening := opening_eq h
  cases a with
  | boolean value =>
      cases b with
      | boolean other =>
          cases value <;> cases other <;> simp [written] at h
          all_goals exact ⟨rfl, h⟩
      | _ => simp [opening] at hopening
  | number value =>
      cases b with
      | number other =>
          obtain ⟨rfl, hxy⟩ := number_cancel hx hy (by simpa only [written] using h)
          exact ⟨rfl, hxy⟩
      | _ => simp [opening] at hopening
  | text value =>
      cases b with
      | text other =>
          obtain ⟨rfl, hxy⟩ := quoted_cancel (by simpa only [written] using h)
          exact ⟨rfl, hxy⟩
      | _ => simp [opening] at hopening
  | array items =>
      cases b with
      | array others =>
          cases items with
          | nil =>
              cases others with
              | nil => simpa [written] using h
              | cons other others => simp [written, toList_lineBreak] at h
          | cons item items =>
              cases others with
              | nil => simp [written, toList_lineBreak] at h
              | cons other others =>
                  -- A comma in front of both makes the first items like the others.
                  obtain ⟨hitems, hend⟩ := writtenItems_cancel (depth + 1) (item :: items)
                    (other :: others) depth (x := ']' :: x) (y := ']' :: y)
                    (by simpa [written, writtenItems] using h)
                  exact ⟨congrArg array hitems, List.tail_eq_of_cons_eq hend⟩
      | _ => simp [opening] at hopening
  | object fields =>
      cases b with
      | object others =>
          cases fields with
          | nil =>
              cases others with
              | nil => simpa [written] using h
              | cons other others => simp [written, toList_lineBreak] at h
          | cons field fields =>
              cases others with
              | nil => simp [written, toList_lineBreak] at h
              | cons other others =>
                  obtain ⟨hfields, hend⟩ := writtenFields_cancel (depth + 1) (field :: fields)
                    (other :: others) depth (x := '\x7d' :: x) (y := '\x7d' :: y)
                    (by simpa [written, writtenFields] using h)
                  exact ⟨congrArg object hfields, List.tail_eq_of_cons_eq hend⟩
      | _ => simp [opening] at hopening

/-- The items of an array end with the last one that a line break follows. -/
theorem writtenItems_cancel (depth : Nat) (items others : List Json) (outer : Nat)
    {x y : List Char}
    (h : (writtenItems depth items).toList ++ ((lineBreak outer).toList ++ x) =
      (writtenItems depth others).toList ++ ((lineBreak outer).toList ++ y)) :
    items = others ∧ x = y := by
  cases items with
  | nil =>
      cases others with
      | nil => simpa [writtenItems] using h
      | cons other others => simp [writtenItems, toList_lineBreak] at h
  | cons item items =>
      cases others with
      | nil => simp [writtenItems, toList_lineBreak] at h
      | cons other others =>
          simp only [writtenItems, String.toList_append, List.append_assoc,
            List.append_cancel_left_eq] at h
          obtain ⟨rfl, hrest⟩ := written_cancel depth item other
            (closes_writtenItems _ _ (closes_lineBreak _ _))
            (closes_writtenItems _ _ (closes_lineBreak _ _)) h
          obtain ⟨rfl, hxy⟩ := writtenItems_cancel depth items others outer hrest
          exact ⟨rfl, hxy⟩

theorem writtenFields_cancel (depth : Nat) (fields others : List (String × Json)) (outer : Nat)
    {x y : List Char}
    (h : (writtenFields depth fields).toList ++ ((lineBreak outer).toList ++ x) =
      (writtenFields depth others).toList ++ ((lineBreak outer).toList ++ y)) :
    fields = others ∧ x = y := by
  cases fields with
  | nil =>
      cases others with
      | nil => simpa [writtenFields] using h
      | cons other others => simp [writtenFields, toList_lineBreak] at h
  | cons field fields =>
      cases others with
      | nil => simp [writtenFields, toList_lineBreak] at h
      | cons other others =>
          simp only [writtenFields, String.toList_append, List.append_assoc,
            List.append_cancel_left_eq] at h
          obtain ⟨hname, hrest⟩ := quoted_cancel h
          obtain ⟨hvalue, hrest⟩ := written_cancel depth field.2 other.2
            (closes_writtenFields _ _ (closes_lineBreak _ _))
            (closes_writtenFields _ _ (closes_lineBreak _ _)) (List.append_cancel_left hrest)
          obtain ⟨rfl, hxy⟩ := writtenFields_cancel depth fields others outer hrest
          obtain rfl : field = other := Prod.ext hname hvalue
          exact ⟨rfl, hxy⟩

end

/-- No two values have the same text. -/
theorem pretty_injective {a b : Json} (h : a.pretty = b.pretty) : a = b := by
  have hnothing : Closes [] := nofun
  have htexts : (a.written 0).toList ++ [] = (b.written 0).toList ++ [] :=
    congrArg (String.toList · ++ []) h
  exact (written_cancel 0 a b hnothing hnothing htexts).1

end Hypermedia.Json
