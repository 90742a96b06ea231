import Mathlib.Data.Bool.AllAny
import StackCompiler.Proofs.Data.Entries
import StackCompiler.Proofs.Json.Integers
import StackCompiler.Proofs.Json.Strings

/-!
# Values are read as they were written

A value that is not too deep, whose numbers are integers that are not too long, is read from the text
that any layout writes of it (`read_write`). A text shorter than the fuel suffices for each of the readers, because every call
reads a character.
-/

namespace StackCompiler.Json

/-- Values without fractions or long integers, at most some collections deep, whose objects name each
member once. -/
inductive Plain : Nat → Json → Prop where
  | null {n : Nat} : Plain n .null
  | bool {n : Nat} (b : Bool) : Plain n (.bool b)
  | int {n : Nat} {k : Int} : k.natAbs < 10 ^ Text.maxDigits → Plain n (.int k)
  | str {n : Nat} (s : String) : Plain n (.str s)
  | arr {n : Nat} {vs : List Json} : (∀ v ∈ vs, Plain n v) → Plain (n + 1) (.arr vs)
  | obj {n : Nat} {ms : List (String × Json)} : (ms.map (·.1)).Nodup →
    (∀ m ∈ ms, Plain n m.2) → Plain (n + 1) (.obj ms)

/-- Separators that are one sign and blanks after it. -/
structure Layout.Spaced (layout : Layout) : Prop where
  comma : ∃ gaps, layout.comma = ',' :: gaps ∧ ∀ c ∈ gaps, Reader.isGap c
  colon : ∃ gaps, layout.colon = ':' :: gaps ∧ ∀ c ∈ gaps, Reader.isGap c

theorem Layout.spaced_spaced : Layout.spaced.Spaced :=
  ⟨⟨_, rfl, List.all_eq_true.1 rfl⟩, ⟨_, rfl, List.all_eq_true.1 rfl⟩⟩

theorem Layout.spaced_indented : Layout.indented.Spaced :=
  ⟨⟨_, rfl, List.all_eq_true.1 rfl⟩, ⟨_, rfl, List.all_eq_true.1 rfl⟩⟩

theorem Layout.spaced_compact : Layout.compact.Spaced :=
  ⟨⟨_, rfl, List.all_eq_true.1 rfl⟩, ⟨_, rfl, List.all_eq_true.1 rfl⟩⟩

namespace Reader

variable {layout : Layout} {depth level fuel : Nat} {c : Char} {cs cs' rest gaps : List Char}
  {v : Json} {vs : List Json}

/-! ## Gaps -/

theorem dropGaps_append (h : ∀ c ∈ gaps, isGap c) : dropGaps (gaps ++ cs) = dropGaps cs :=
  List.dropWhile_append_of_pos h

theorem dropGaps_cons (h : isGap c = false) : dropGaps (c :: cs) = c :: cs :=
  List.dropWhile_cons_of_neg (by rw [h]; exact Bool.false_ne_true)

theorem dropGaps_newline : dropGaps (Printer.newline layout level ++ cs) = dropGaps cs := by
  refine dropGaps_append ?_
  unfold Printer.newline
  cases layout.step with
  | none => exact fun c hc => absurd hc List.not_mem_nil
  | some k =>
    refine List.forall_mem_cons.2 ⟨rfl, fun c hc => ?_⟩
    rw [List.eq_of_mem_replicate hc]
    rfl

/-- A value does not start with a gap, nor like the end of a list. -/
theorem exists_head (layout : Layout) (level : Nat) {n : Nat} (h : Plain n v) : ∃ c cs,
    Printer.value layout level v = c :: cs ∧ isGap c = false ∧ c ≠ ']' := by
  cases h with
  | null => exact ⟨_, _, rfl, rfl, by decide⟩
  | bool b => cases b <;> exact ⟨_, _, rfl, rfl, by decide⟩
  | @int _ k _ =>
    obtain ⟨d, ds, hd, -, htext⟩ := toList_toString_int k
    rw [Printer.value, htext]
    split
    · exact ⟨_, _, rfl, rfl, by decide⟩
    · exact ⟨d, ds, rfl, isGap_of_isAsciiDigit hd, ne_of_isAsciiDigit hd (by decide)⟩
  | str s => exact ⟨_, _, rfl, rfl, by decide⟩
  | @arr _ vs _ => cases vs <;> exact ⟨_, _, rfl, rfl, by decide⟩
  | @obj _ ms _ _ => cases ms <;> exact ⟨_, _, rfl, rfl, by decide⟩

theorem dropGaps_value {n : Nat} (h : Plain n v) :
    dropGaps (Printer.value layout level v ++ cs) = Printer.value layout level v ++ cs := by
  obtain ⟨c, cs', heq, hgap, -⟩ := exists_head layout level h
  rw [heq, List.cons_append, dropGaps_cons hgap]

/-! ## Single steps -/

theorem value_str {s : String} (h : string [] fuel cs = .ok (s, rest)) :
    value depth (fuel + 1) ('"' :: cs) = .ok (.str s, rest) := by
  change (string [] fuel cs).map _ = _
  rw [h]
  rfl

theorem value_bracket (hdepth : depth < maxDepth) :
    value depth (fuel + 1) ('[' :: cs) = match dropGaps cs with
      | ']' :: cs => .ok (.arr [], cs)
      | cs => items (depth + 1) [] fuel cs :=
  if_neg (Nat.not_le.2 hdepth)

theorem value_brace (hdepth : depth < maxDepth) :
    value depth (fuel + 1) ('\x7b' :: cs) = match dropGaps cs with
      | '\x7d' :: cs => .ok (.obj [], cs)
      | cs => members (depth + 1) [] fuel cs :=
  if_neg (Nat.not_le.2 hdepth)

theorem value_arr (hdepth : depth < maxDepth) (h : dropGaps cs = c :: cs') (hc : c ≠ ']') :
    value depth (fuel + 1) ('[' :: cs) = items (depth + 1) [] fuel (c :: cs') := by
  rw [value_bracket hdepth, h]
  split
  · rename_i heq
    exact absurd (List.cons.inj heq).1 hc
  · rfl

theorem value_obj (hdepth : depth < maxDepth) (h : dropGaps cs = '"' :: cs') :
    value depth (fuel + 1) ('\x7b' :: cs) = members (depth + 1) [] fuel ('"' :: cs') := by
  rw [value_brace hdepth, h]
  rfl

theorem items_eq {acc : List Json} : items depth acc (fuel + 1) cs =
    match value depth fuel cs with
    | .error e => .error e
    | .ok (v, cs) =>
      match dropGaps cs with
      | ',' :: cs => items depth (v :: acc) fuel (dropGaps cs)
      | ']' :: cs => .ok (.arr (v :: acc).reverse, cs)
      | _ => .error .malformed :=
  rfl

theorem items_more {acc : List Json} (hvalue : value depth fuel cs = .ok (v, rest))
    (hrest : dropGaps rest = ',' :: cs') :
    items depth acc (fuel + 1) cs = items depth (v :: acc) fuel (dropGaps cs') := by
  simp only [items_eq, hvalue, hrest]

theorem items_end {acc : List Json} (hvalue : value depth fuel cs = .ok (v, rest))
    (hrest : dropGaps rest = ']' :: cs') :
    items depth acc (fuel + 1) cs = .ok (.arr (acc.reverse ++ [v]), cs') := by
  simp only [items_eq, hvalue, hrest, List.reverse_cons]

section Members

variable {acc : List (String × Json)} {key : String} {afterKey afterValue : List Char}

theorem members_eq : members depth acc (fuel + 1) ('"' :: cs) =
    match string [] fuel cs with
    | .error e => .error e
    | .ok (key, cs) =>
      match dropGaps cs with
      | ':' :: cs =>
        match value depth fuel (dropGaps cs) with
        | .error e => .error e
        | .ok (v, cs) =>
          match dropGaps cs with
          | ',' :: cs => members depth ((key, v) :: acc) fuel (dropGaps cs)
          | '\x7d' :: cs => .ok (.obj (dedupEntries ((key, v) :: acc).reverse), cs)
          | _ => .error .malformed
      | _ => .error .malformed :=
  rfl

theorem members_more (hkey : string [] fuel cs = .ok (key, afterKey))
    (hcolon : dropGaps afterKey = ':' :: cs')
    (hvalue : value depth fuel (dropGaps cs') = .ok (v, afterValue))
    (hrest : dropGaps afterValue = ',' :: rest) :
    members depth acc (fuel + 1) ('"' :: cs) =
      members depth ((key, v) :: acc) fuel (dropGaps rest) := by
  simp only [members_eq, hkey, hcolon, hvalue, hrest]

theorem members_end (hkey : string [] fuel cs = .ok (key, afterKey))
    (hcolon : dropGaps afterKey = ':' :: cs')
    (hvalue : value depth fuel (dropGaps cs') = .ok (v, afterValue))
    (hrest : dropGaps afterValue = '\x7d' :: rest) :
    members depth acc (fuel + 1) ('"' :: cs) =
      .ok (.obj (dedupEntries (acc.reverse ++ [(key, v)])), rest) := by
  simp only [members_eq, hkey, hcolon, hvalue, hrest, List.reverse_cons]

end Members

/-! ## Collections -/

/-- The value is read from its text inside some collections, whatever follows that does not go on
with a number. -/
def Reads (layout : Layout) (depth : Nat) (v : Json) : Prop :=
  ∀ level fuel rest, (Printer.value layout level v).length ≤ fuel → Stops rest →
    value depth fuel (Printer.value layout level v ++ rest) = .ok (v, rest)

/-- Items are read up to the end of their list. -/
theorem items_read (hlayout : layout.Spaced) {n : Nat} : ∀ {vs : List Json} {v : Json},
    (∀ w ∈ v :: vs, Plain n w ∧ Reads layout depth w) → ∀ (acc : List Json) (fuel : Nat),
      (Printer.value layout level v ++ Printer.items layout level vs).length < fuel →
        dropGaps cs = ']' :: rest →
          items depth acc fuel (Printer.value layout level v ++ (Printer.items layout level vs ++
            cs)) = .ok (.arr (acc.reverse ++ v :: vs), rest)
  | [], v, h, acc, fuel + 1, hfuel, hend => by
    obtain ⟨-, hv⟩ := h v (List.mem_singleton_self v)
    rw [List.length_append] at hfuel
    exact items_end (hv level fuel _ (by omega) (stops_of_dropGaps hend rfl)) hend
  | w :: vs, v, h, acc, fuel + 1, hfuel, hend => by
    obtain ⟨⟨-, hv⟩, hmore⟩ := List.forall_mem_cons.1 h
    obtain ⟨gaps, hcomma, hgaps⟩ := hlayout.comma
    obtain ⟨hw, -⟩ := hmore w (List.mem_cons_self ..)
    have htext : Printer.items layout level (w :: vs) ++ cs = ',' :: (gaps ++
        (Printer.newline layout level ++ (Printer.value layout level w ++
          (Printer.items layout level vs ++ cs)))) := by
      rw [Printer.items, hcomma]
      simp
    have hlength : (Printer.value layout level w ++ Printer.items layout level vs).length + 1 ≤
        (Printer.items layout level (w :: vs)).length := by
      rw [Printer.items, hcomma]
      simp
      omega
    rw [List.length_append] at hfuel
    rw [htext, items_more (hv level fuel _ (by omega) (stops_cons rfl)) (dropGaps_cons rfl),
      dropGaps_append hgaps, dropGaps_newline, dropGaps_value hw, items_read hlayout hmore _ _ (by omega) hend,
      List.reverse_cons, List.append_assoc, List.singleton_append]

theorem quoted_append (s : String) (cs : List Char) :
    Printer.quoted s ++ cs = '"' :: (s.toList.flatMap Printer.escape ++ '"' :: cs) := by
  simp [Printer.quoted]

theorem string_of_quoted (s : String) (h : (Printer.quoted s).length ≤ fuel + 1) :
    string [] fuel (s.toList.flatMap Printer.escape ++ '"' :: cs) = .ok (s, cs) := by
  simp only [Printer.quoted, List.length_append, List.length_cons, List.length_nil] at h
  rw [string_quoted _ _ _ (by omega), List.reverse_nil, List.nil_append, String.ofList_toList]

/-- Members are read up to the end of their object. -/
theorem members_read (hlayout : layout.Spaced) {n : Nat} :
    ∀ {ms : List (String × Json)} {m : String × Json},
      (∀ m' ∈ m :: ms, Plain n m'.2 ∧ Reads layout depth m'.2) →
        ∀ (acc : List (String × Json)) (fuel : Nat),
          (Printer.quoted m.1 ++ layout.colon ++ Printer.value layout level m.2 ++
            Printer.members layout level ms).length < fuel → dropGaps cs = '\x7d' :: rest →
              members depth acc fuel (Printer.quoted m.1 ++ (layout.colon ++
                (Printer.value layout level m.2 ++ (Printer.members layout level ms ++ cs)))) =
                .ok (.obj (dedupEntries (acc.reverse ++ m :: ms)), rest)
  | [], (k, v), h, acc, fuel + 1, hfuel, hend => by
    obtain ⟨hplain, hv⟩ := h (k, v) (List.mem_singleton_self _)
    dsimp only at hplain hv
    obtain ⟨gaps, hcolon, hgaps⟩ := hlayout.colon
    simp only [List.length_append] at hfuel
    rw [quoted_append, hcolon, List.cons_append]
    refine members_end (string_of_quoted k (by omega)) (dropGaps_cons rfl) ?_ hend
    rw [dropGaps_append hgaps, dropGaps_value hplain]
    exact hv level fuel _ (by omega) (stops_of_dropGaps hend rfl)
  | (k', v') :: ms, (k, v), h, acc, fuel + 1, hfuel, hend => by
    obtain ⟨⟨hplain, hv⟩, hmore⟩ := List.forall_mem_cons.1 h
    dsimp only at hplain hv
    obtain ⟨gaps, hcolon, hgaps⟩ := hlayout.colon
    obtain ⟨gaps', hcomma, hgaps'⟩ := hlayout.comma
    have htext : Printer.members layout level ((k', v') :: ms) ++ cs = ',' :: (gaps' ++
        (Printer.newline layout level ++ (Printer.quoted k' ++ (layout.colon ++
          (Printer.value layout level v' ++ (Printer.members layout level ms ++ cs)))))) := by
      rw [Printer.members, hcomma]
      simp
    have hlength : (Printer.quoted k' ++ layout.colon ++ Printer.value layout level v' ++
        Printer.members layout level ms).length + 1 ≤
          (Printer.members layout level ((k', v') :: ms)).length := by
      rw [Printer.members, hcomma]
      simp
      omega
    have hquoted : dropGaps (Printer.quoted k' ++ (layout.colon ++ (Printer.value layout level v' ++
        (Printer.members layout level ms ++ cs)))) = Printer.quoted k' ++ (layout.colon ++
          (Printer.value layout level v' ++ (Printer.members layout level ms ++ cs))) := by
      rw [quoted_append, dropGaps_cons rfl]
    simp only [List.length_append] at hfuel hlength
    rw [quoted_append, hcolon, List.cons_append, htext,
      members_more (string_of_quoted k (by omega)) (dropGaps_cons rfl)
        (by rw [dropGaps_append hgaps, dropGaps_value hplain]
            exact hv level fuel _ (by omega) (stops_cons rfl))
        (dropGaps_cons rfl),
      dropGaps_append hgaps', dropGaps_newline, hquoted,
      members_read hlayout hmore _ _ (by simp only [List.length_append]; omega) hend,
      List.reverse_cons, List.append_assoc, List.singleton_append]

/-! ## Values -/

/-- The text of a value is not empty, so that some fuel is there to read it. -/
theorem reads_of_succ {n : Nat} (h : Plain n v) (hsucc : ∀ level fuel rest,
    (Printer.value layout level v).length ≤ fuel + 1 → Stops rest →
      value depth (fuel + 1) (Printer.value layout level v ++ rest) = .ok (v, rest)) :
    Reads layout depth v := by
  intro level fuel rest hfuel hrest
  obtain ⟨c, cs, heq, -⟩ := exists_head layout level h
  cases fuel with
  | zero =>
    rw [heq] at hfuel
    cases hfuel
  | succ fuel => exact hsucc level fuel rest hfuel hrest

theorem reads_arr (hlayout : layout.Spaced) (hdepth : depth < maxDepth) {n : Nat}
    (hplain : ∀ w ∈ vs, Plain n w) (hreads : ∀ w ∈ vs, Reads layout (depth + 1) w) :
    Reads layout depth (.arr vs) := by
  refine reads_of_succ (.arr hplain) fun level fuel rest hfuel _ => ?_
  cases vs with
  | nil =>
    change value depth (fuel + 1) ('[' :: ']' :: rest) = _
    rw [value_bracket hdepth]
    rfl
  | cons w vs =>
    have hw := hplain w (List.mem_cons_self ..)
    obtain ⟨c, cs, hhead, -, hend⟩ := exists_head layout (level + 1) hw
    have htext : Printer.value layout level (.arr (w :: vs)) ++ rest = '[' ::
        (Printer.newline layout (level + 1) ++ (Printer.value layout (level + 1) w ++
          (Printer.items layout (level + 1) vs ++
            (Printer.newline layout level ++ ']' :: rest)))) := by
      rw [Printer.value]
      simp
    have hstart : dropGaps (Printer.newline layout (level + 1) ++
        (Printer.value layout (level + 1) w ++ (Printer.items layout (level + 1) vs ++
          (Printer.newline layout level ++ ']' :: rest)))) =
            c :: (cs ++ (Printer.items layout (level + 1) vs ++
              (Printer.newline layout level ++ ']' :: rest))) := by
      rw [dropGaps_newline, dropGaps_value hw, hhead]
      rfl
    rw [Printer.value] at hfuel
    simp only [List.length_append, List.length_cons, List.length_nil] at hfuel
    rw [htext, value_arr hdepth hstart hend, ← List.cons_append, ← hhead]
    refine items_read hlayout (fun w' hw' => ⟨hplain w' hw', hreads w' hw'⟩) [] fuel ?_ ?_
    · rw [List.length_append]
      omega
    · rw [dropGaps_newline, dropGaps_cons rfl]

theorem reads_obj (hlayout : layout.Spaced) (hdepth : depth < maxDepth) {n : Nat}
    {ms : List (String × Json)} (hnodup : (ms.map (·.1)).Nodup) (hplain : ∀ m ∈ ms, Plain n m.2)
    (hreads : ∀ m ∈ ms, Reads layout (depth + 1) m.2) : Reads layout depth (.obj ms) := by
  refine reads_of_succ (.obj hnodup hplain) fun level fuel rest hfuel _ => ?_
  cases ms with
  | nil =>
    change value depth (fuel + 1) ('\x7b' :: '\x7d' :: rest) = _
    rw [value_brace hdepth]
    rfl
  | cons m ms =>
    have hdedup : dedupEntries (m :: ms) = m :: ms :=
      dedupEntries_eq_self ((List.pairwise_map.1 hnodup).imp fun hne => beq_false_of_ne hne)
    have htext : Printer.value layout level (.obj (m :: ms)) ++ rest = '\x7b' ::
        (Printer.newline layout (level + 1) ++ (Printer.quoted m.1 ++ (layout.colon ++
          (Printer.value layout (level + 1) m.2 ++ (Printer.members layout (level + 1) ms ++
            (Printer.newline layout level ++ '\x7d' :: rest)))))) := by
      rw [Printer.value]
      simp
    rw [Printer.value] at hfuel
    simp only [List.length_append, List.length_cons, List.length_nil] at hfuel
    rw [htext, value_obj hdepth (by rw [dropGaps_newline, quoted_append, dropGaps_cons rfl]),
      ← quoted_append, members_read hlayout (fun m' hm' => ⟨hplain m' hm', hreads m' hm'⟩) [] fuel]
    · rw [List.reverse_nil, List.nil_append, hdedup]
    · simp only [List.length_append]
      omega
    · rw [dropGaps_newline, dropGaps_cons rfl]

/-- A value is read from its text inside so many collections that it is not too deep. -/
theorem reads_of_plain (hlayout : layout.Spaced) {n : Nat} (h : Plain n v) :
    ∀ {depth : Nat}, depth + n ≤ maxDepth → Reads layout depth v := by
  induction h with
  | null => exact fun _ => reads_of_succ (.null (n := 0)) fun _ _ _ _ _ => rfl
  | bool b => cases b <;> exact fun _ => reads_of_succ (.bool (n := 0) _) fun _ _ _ _ _ => rfl
  | int hk => exact fun _ => reads_of_succ (.int (n := 0) hk) fun _ _ _ _ => value_toString hk
  | str s =>
    refine fun _ => reads_of_succ (.str (n := 0) s) fun level fuel rest hfuel _ => ?_
    rw [Printer.value] at hfuel ⊢
    rw [quoted_append]
    exact value_str (string_of_quoted s hfuel)
  | arr hvs ih =>
    intro depth hdepth
    exact reads_arr hlayout (by omega) hvs fun w hw => ih w hw (by omega)
  | obj hnodup hms ih =>
    intro depth hdepth
    exact reads_obj hlayout (by omega) hnodup hms fun m hm => ih m hm (by omega)

end Reader

/-! ## The characters of a text -/

/-- The ASCII characters that stand for themselves. -/
def IsPlainAscii (c : Char) : Prop := 32 ≤ c.toNat ∧ c.toNat < 127

instance (c : Char) : Decidable (IsPlainAscii c) := inferInstanceAs (Decidable (_ ∧ _))

namespace Printer

theorem isPlainAscii_hexDigit (n : Nat) : IsPlainAscii (hexDigit (n % 16)) := by
  have hall : ∀ n < 16, IsPlainAscii (hexDigit n) := by decide
  exact hall _ (Nat.mod_lt _ (by decide))

theorem isPlainAscii_unitEscape {n : Nat} : ∀ c ∈ unitEscape n, IsPlainAscii c := by
  simp only [unitEscape, List.forall_mem_cons]
  exact ⟨by decide, by decide, isPlainAscii_hexDigit _, isPlainAscii_hexDigit _,
    isPlainAscii_hexDigit _, isPlainAscii_hexDigit _, fun _ h => absurd h List.not_mem_nil⟩

theorem isPlainAscii_escape (c : Char) : ∀ e ∈ escape c, IsPlainAscii e := by
  unfold escape
  split_ifs with _ _ _ _ _ _ _ hplain
  · exact List.all_iff_forall_prop.1 rfl
  · exact List.all_iff_forall_prop.1 rfl
  · exact List.all_iff_forall_prop.1 rfl
  · exact List.all_iff_forall_prop.1 rfl
  · exact List.all_iff_forall_prop.1 rfl
  · exact List.all_iff_forall_prop.1 rfl
  · exact List.all_iff_forall_prop.1 rfl
  · exact List.forall_mem_singleton.2 hplain
  · exact isPlainAscii_unitEscape
  · exact List.forall_mem_append.2 ⟨isPlainAscii_unitEscape, isPlainAscii_unitEscape⟩

theorem isPlainAscii_quoted (s : String) : ∀ c ∈ quoted s, IsPlainAscii c := by
  refine List.forall_mem_cons.2 ⟨by decide, List.forall_mem_append.2 ⟨?_,
    List.forall_mem_singleton.2 (by decide)⟩⟩
  exact List.forall_mem_flatMap.2 fun c _ => isPlainAscii_escape c

theorem isPlainAscii_toString (n : Int) : ∀ c ∈ (toString n).toList, IsPlainAscii c := by
  have hdigit : ∀ c, Text.isAsciiDigit c → IsPlainAscii c := by
    intro c hc
    obtain ⟨k, hk, rfl⟩ := Reader.exists_ofNat_of_isAsciiDigit hc
    interval_cases k <;> decide
  obtain ⟨d, ds, -, hdigits, htext⟩ := Reader.toList_toString_int n
  have hall : ∀ c ∈ d :: ds, IsPlainAscii c := fun c hc =>
    hdigit c (Reader.isAsciiDigit_of_mem_toDigits (hdigits ▸ hc))
  rw [htext]
  split
  · exact List.forall_mem_cons.2 ⟨by decide, hall⟩
  · exact hall

/-- Each character that a layout adds is plain or satisfies a condition. -/
structure Adds (layout : Layout) (P : Char → Prop) : Prop where
  comma : ∀ c ∈ layout.comma, P c
  colon : ∀ c ∈ layout.colon, P c
  newline : ∀ level, ∀ c ∈ newline layout level, P c

variable {layout : Layout} {P : Char → Prop}

theorem forall_mem_items (hadds : Adds layout P) {level : Nat} : ∀ {vs : List Json},
    (∀ v ∈ vs, ∀ c ∈ value layout level v, P c) → ∀ c ∈ items layout level vs, P c
  | [], _ => fun c h => absurd h List.not_mem_nil
  | v :: vs, h => by
    obtain ⟨hv, hvs⟩ := List.forall_mem_cons.1 h
    rw [items]
    simp only [List.forall_mem_append]
    exact ⟨⟨⟨hadds.comma, hadds.newline level⟩, hv⟩, forall_mem_items hadds hvs⟩

theorem forall_mem_members (hadds : Adds layout P) (hplain : ∀ c, IsPlainAscii c → P c)
    {level : Nat} : ∀ {ms : List (String × Json)},
      (∀ m ∈ ms, ∀ c ∈ value layout level m.2, P c) → ∀ c ∈ members layout level ms, P c
  | [], _ => fun c h => absurd h List.not_mem_nil
  | (k, v) :: ms, h => by
    obtain ⟨hv, hms⟩ := List.forall_mem_cons.1 h
    rw [members]
    simp only [List.forall_mem_append]
    exact ⟨⟨⟨⟨⟨hadds.comma, hadds.newline level⟩, fun c hc => hplain c (isPlainAscii_quoted k c hc)⟩,
      hadds.colon⟩, hv⟩, forall_mem_members hadds hplain hms⟩

/-- The text of a value has plain characters and those that its layout adds. -/
theorem forall_mem_value (hadds : Adds layout P) (hplain : ∀ c, IsPlainAscii c → P c) {n : Nat}
    {v : Json} (h : Plain n v) : ∀ level, ∀ c ∈ value layout level v, P c := by
  have hsign : ∀ cs : List Char, (∀ c ∈ cs, IsPlainAscii c) → ∀ c ∈ cs, P c :=
    fun cs hcs c hc => hplain c (hcs c hc)
  induction h with
  | null => exact fun _ => hsign "null".toList (List.all_iff_forall_prop.1 rfl)
  | bool b =>
    cases b with
    | true => exact fun _ => hsign "true".toList (List.all_iff_forall_prop.1 rfl)
    | false => exact fun _ => hsign "false".toList (List.all_iff_forall_prop.1 rfl)
  | @int _ k _ => exact fun level => hsign _ (isPlainAscii_toString k)
  | str s => exact fun level => hsign _ (isPlainAscii_quoted s)
  | @arr n vs _ ih =>
    intro level
    cases vs with
    | nil => exact hsign ['[', ']'] (List.all_iff_forall_prop.1 rfl)
    | cons w vs =>
      obtain ⟨hw, hvs⟩ := List.forall_mem_cons.1 ih
      rw [value]
      simp only [List.forall_mem_append, List.forall_mem_cons]
      have hitems := forall_mem_items hadds fun v hv => hvs v hv (level + 1)
      exact ⟨⟨⟨⟨⟨hplain '[' (by decide), hadds.newline _⟩, hw _⟩, hitems⟩, hadds.newline _⟩,
        hplain ']' (by decide), fun _ h => absurd h List.not_mem_nil⟩
  | @obj n ms _ _ ih =>
    intro level
    cases ms with
    | nil => exact hsign ['\x7b', '\x7d'] (List.all_iff_forall_prop.1 rfl)
    | cons m ms =>
      obtain ⟨hm, hms⟩ := List.forall_mem_cons.1 ih
      have hmembers := forall_mem_members hadds hplain fun m hm => hms m hm (level + 1)
      rw [value]
      simp only [List.forall_mem_append, List.forall_mem_cons]
      exact ⟨⟨⟨⟨⟨⟨⟨hplain '\x7b' (by decide), hadds.newline _⟩, hsign _ (isPlainAscii_quoted m.1)⟩,
        hadds.colon⟩, hm _⟩, hmembers⟩, hadds.newline _⟩,
        hplain '\x7d' (by decide), fun _ h => absurd h List.not_mem_nil⟩

end Printer

/-- A value without fractions or long integers is read from its text in any layout. -/
theorem read_write {layout : Layout} (hlayout : layout.Spaced) {n : Nat} {v : Json}
    (h : Plain n v) (hdepth : n ≤ Reader.maxDepth) : read (v.write layout) = .ok v := by
  have hvalue := Reader.reads_of_plain hlayout h (by omega : 0 + n ≤ Reader.maxDepth) 0
    (2 * (Printer.value layout 0 v).length + 2) [] (by omega) Reader.stops_nil
  have hstart : Reader.dropGaps (Printer.value layout 0 v ++ []) = Printer.value layout 0 v ++ [] :=
    Reader.dropGaps_value h
  rw [List.append_nil] at hvalue hstart
  rw [read, write, String.toList_ofList, Reader.document, hstart, hvalue]
  rfl

end StackCompiler.Json
