import ReactOs.Wpa.Config

namespace ReactOs.Wpa

theorem readUpTo_append_eq (n : Nat) (cs : List Char) :
    (readUpTo n cs).1 ++ (readUpTo n cs).2 = cs := by
  induction n generalizing cs with
  | zero => rfl
  | succ n ih =>
    cases cs with
    | nil => rfl
    | cons c cs =>
      simp only [readUpTo]
      split_ifs with h
      · rw [h]; rfl
      · rw [List.cons_append, ih]

theorem readUpTo_rest_lt (hn : 0 < n) (h : cs ≠ []) : (readUpTo n cs).2.length < cs.length := by
  obtain ⟨m, rfl⟩ : ∃ m, n = m + 1 := ⟨n - 1, by omega⟩
  obtain ⟨c, cs, rfl⟩ := List.exists_cons_of_ne_nil h
  have := congrArg List.length (readUpTo_append_eq m cs)
  simp only [readUpTo]
  split_ifs
  · simp
  · rw [List.length_append] at this; simp only [List.length_cons]; omega

/-- A read that stops inside `A`, at a newline or after `n` bytes, does not see what follows. -/
theorem readUpTo_append {A : List Char} (B : List Char) (h : '\n' ∈ A ∨ n ≤ A.length) :
    readUpTo n (A ++ B) = ((readUpTo n A).1, (readUpTo n A).2 ++ B) := by
  induction n generalizing A with
  | zero => rfl
  | succ n ih =>
    cases A with
    | nil => simp at h
    | cons c A =>
      rw [List.cons_append, readUpTo.eq_3, readUpTo.eq_3]
      split_ifs with hc
      · rfl
      · simp only [List.mem_cons, List.length_cons] at h
        rw [ih (by rcases h with (h | h) | h; exacts [absurd h.symm hc, .inl h, .inr (by omega)])]

/-- A line shorter than the buffer is read whole, with its newline. -/
theorem readUpTo_line {l : List Char} (B : List Char) (hn : '\n' ∉ l) (hl : l.length < n) :
    readUpTo n (l ++ '\n' :: B) = (l ++ ['\n'], B) := by
  induction l generalizing n with
  | nil => obtain ⟨m, rfl⟩ : ∃ m, n = m + 1 := ⟨n - 1, by simp at hl; omega⟩; rfl
  | cons c l ih =>
    obtain ⟨m, rfl⟩ : ∃ m, n = m + 1 := ⟨n - 1, by simp at hl; omega⟩
    have hc : c ≠ '\n' := fun h => hn (h ▸ List.mem_cons_self _ _)
    rw [List.cons_append, readUpTo.eq_3, if_neg hc,
      ih (n := m) (fun h => hn (List.mem_cons_of_mem _ h)) (by simp at hl; omega)]
    rfl

/-- Without a newline in it, a read takes the first `n` bytes. -/
theorem readUpTo_of_not_mem {l : List Char} (hn : '\n' ∉ l) (n : Nat) :
    readUpTo n l = (l.take n, l.drop n) := by
  induction l generalizing n with
  | nil => cases n <;> rfl
  | cons c l ih =>
    cases n with
    | zero => rfl
    | succ n =>
      have hc : c ≠ '\n' := fun h => hn (h ▸ List.mem_cons_self _ _)
      rw [readUpTo.eq_3, if_neg hc, ih (fun h => hn (List.mem_cons_of_mem _ h))]
      rfl

/-- A line as long as the buffer is read without its newline. -/
theorem readUpTo_full {l : List Char} (B : List Char) (hn : '\n' ∉ l) (hl : l.length = n) :
    readUpTo n (l ++ B) = (l, B) := by
  rw [readUpTo_append B (.inr hl.ge), readUpTo_of_not_mem hn, List.take_of_length_le hl.le,
    List.drop_of_length_le hl.le, List.nil_append]

theorem readLines_nil (f : Nat) : readLines 256 f [] = [] := by
  cases f <;> rfl

theorem readLines_cons (h : cs ≠ []) (f : Nat) :
    readLines 256 (f + 1) cs = (readUpTo 255 cs).1 :: readLines 256 f (readUpTo 255 cs).2 := by
  simp only [readLines, fgets, if_neg h]

/-- Fuel beyond the file's length changes nothing: each read takes a byte. -/
theorem readLines_fuel (h₁ : cs.length ≤ f₁) (h₂ : cs.length ≤ f₂) :
    readLines 256 f₁ cs = readLines 256 f₂ cs := by
  induction f₁ generalizing cs f₂ with
  | zero =>
    have hnil : cs = [] := List.length_eq_zero.mp (by omega)
    rw [hnil, readLines_nil, readLines_nil]
  | succ f₁ ih =>
    rcases eq_or_ne cs [] with rfl | hcs
    · rw [readLines_nil, readLines_nil]
    · have hpos := List.length_pos.mpr hcs
      obtain ⟨g, rfl⟩ : ∃ g, f₂ = g + 1 := ⟨f₂ - 1, by omega⟩
      have hlt := readUpTo_rest_lt (n := 255) (by decide) hcs
      rw [readLines_cons hcs, readLines_cons hcs,
        ih (show (readUpTo 255 cs).2.length ≤ f₁ by omega) (show _ ≤ g by omega)]

theorem readLines_eq_cons (h : cs ≠ []) :
    readLines 256 cs.length cs =
      (readUpTo 255 cs).1 :: readLines 256 (readUpTo 255 cs).2.length (readUpTo 255 cs).2 := by
  have hlt := readUpTo_rest_lt (n := 255) (by decide) h
  obtain ⟨g, hg⟩ : ∃ g, cs.length = g + 1 := ⟨cs.length - 1, by omega⟩
  rw [hg, readLines_cons h, readLines_fuel (by omega) le_rfl]

/-- Reading restarts at every line boundary: the reads of a file are those of its part up to a
newline followed by those of the rest. -/
theorem readLines_append {A : List Char} (B : List Char) (hA : A = [] ∨ A.getLast? = some '\n')
    (hf : (A ++ B).length ≤ f) :
    readLines 256 f (A ++ B) = readLines 256 A.length A ++ readLines 256 B.length B := by
  induction f generalizing A with
  | zero =>
    have hnil : A ++ B = [] := List.length_eq_zero.mp (by omega)
    obtain ⟨rfl, rfl⟩ := List.append_eq_nil.mp hnil
    rfl
  | succ f ih =>
    rcases hA with rfl | hA
    · rw [List.nil_append] at hf ⊢
      rw [readLines_fuel hf le_rfl, List.length_nil, readLines_nil, List.nil_append]
    · have hne : A ≠ [] := by rintro rfl; cases hA
      have hsplit := readUpTo_append_eq 255 A
      have hlt := readUpTo_rest_lt (n := 255) (by decide) hne
      have hA' : (readUpTo 255 A).2 = [] ∨ (readUpTo 255 A).2.getLast? = some '\n' := by
        rcases eq_or_ne (readUpTo 255 A).2 [] with h | h
        · exact .inl h
        · obtain ⟨x, hx⟩ := Option.isSome_iff_exists.mp (List.getLast?_isSome.mpr h)
          rw [← hsplit, List.getLast?_append, hx, Option.or_some] at hA
          exact .inr (hx.trans hA)
      have hmem : '\n' ∈ A := by
        obtain ⟨ys, rfl⟩ := List.getLast?_eq_some_iff.mp hA
        exact List.mem_append_right _ (List.mem_singleton_self _)
      rw [readLines_cons (by simp [hne]), readUpTo_append B (.inl hmem), ih hA'
        (by rw [List.length_append] at hf ⊢; omega), readLines_eq_cons hne, List.cons_append]

/-- The reads of newline-terminated lines shorter than 255 characters are the lines. -/
theorem readLines_flatMap {ls : List (List Char)} (h : ∀ l ∈ ls, l.length < 255 ∧ '\n' ∉ l) :
    readLines 256 (ls.flatMap (· ++ ['\n'])).length (ls.flatMap (· ++ ['\n'])) =
      ls.map (· ++ ['\n']) := by
  induction ls with
  | nil => rfl
  | cons l ls ih =>
    obtain ⟨hlen, hn⟩ := h l (List.mem_cons_self _ _)
    rw [List.flatMap_cons, readLines_append _ (.inr (List.getLast?_eq_some_iff.mpr ⟨l, rfl⟩)) le_rfl,
      ih fun l hl => h l (List.mem_cons_of_mem _ hl), readLines_eq_cons (by simp),
      readUpTo_line [] hn hlen]
    rfl

/-- The loop body skips a buffer with nothing left once its comment and blanks are gone. -/
theorem parseConfigLine_of_content (h : lineContent buf = []) (st : ConfigState) :
    parseConfigLine st buf = st := by
  simp only [parseConfigLine, h, if_true]

theorem foldl_parseConfigLine_skip {bufs : List (List Char)} (h : ∀ b ∈ bufs, lineContent b = [])
    (st : ConfigState) : bufs.foldl parseConfigLine st = st := by
  induction bufs with
  | nil => rfl
  | cons b bufs ih =>
    rw [List.foldl_cons, parseConfigLine_of_content (h b (List.mem_cons_self _ _)),
      ih fun b hb => h b (List.mem_cons_of_mem _ hb)]

theorem cutAt_cString_append_newline {l : List Char} (hn : '\n' ∉ l) :
    cutAt '\n' (cString (l ++ ['\n'])) = cutAt '\n' (cString l) := by
  induction l with
  | nil => rfl
  | cons c l ih =>
    have hc : c ≠ '\n' := fun h => hn (h ▸ List.mem_cons_self _ _)
    by_cases h0 : c = '\x00'
    · simp [cString, h0]
    · simp only [cString, cutAt, List.cons_append, List.takeWhile_cons, h0, hc, ne_eq,
        not_false_eq_true, decide_True, if_true] at ih ⊢
      rw [ih (fun h => hn (List.mem_cons_of_mem _ h))]

theorem lineContent_append_newline {l : List Char} (hn : '\n' ∉ l) :
    lineContent (l ++ ['\n']) = lineContent l := by
  rw [lineContent, lineContent, cutAt_cString_append_newline hn]

theorem parseConfigLine_append_newline {l : List Char} (hn : '\n' ∉ l) (st : ConfigState) :
    parseConfigLine st (l ++ ['\n']) = parseConfigLine st l := by
  simp only [parseConfigLine, lineContent_append_newline hn]

/-- Reading a last line without its newline or with it comes to the same. -/
theorem foldl_readLines_append_newline {l : List Char} (hn : '\n' ∉ l) (st : ConfigState) :
    (readLines 256 (l ++ ['\n']).length (l ++ ['\n'])).foldl parseConfigLine st =
      (readLines 256 l.length l).foldl parseConfigLine st := by
  obtain ⟨n, hl⟩ : ∃ n, l.length ≤ n := ⟨_, le_rfl⟩
  induction n generalizing l st with
  | zero =>
    rw [List.length_eq_zero.mp (Nat.le_zero.mp hl)]
    rfl
  | succ n ih =>
    rw [readLines_eq_cons (by simp)]
    rcases eq_or_ne l [] with rfl | hne
    · rfl
    rw [readLines_eq_cons hne, readUpTo_of_not_mem hn, List.foldl_cons, List.foldl_cons]
    rcases Nat.lt_or_ge l.length 255 with hlt | hge
    · rw [readUpTo_line [] hn hlt, List.take_of_length_le hlt.le, List.drop_of_length_le hlt.le]
      rw [List.length_nil, readLines_nil, List.foldl_nil, parseConfigLine_append_newline hn]
      rfl
    · have hsplit : l ++ ['\n'] = l.take 255 ++ (l.drop 255 ++ ['\n']) := by
        rw [← List.append_assoc, List.take_append_drop]
      have hdrop : '\n' ∉ l.drop 255 := fun h => hn (List.mem_of_mem_drop h)
      rw [hsplit, readUpTo_append _ (.inr (by simp; omega)), readUpTo_of_not_mem
        (fun h => hn (List.mem_of_mem_take h)), List.take_take, min_self,
        List.drop_of_length_le (List.length_take_le _ _), List.nil_append]
      exact ih hdrop _ (by simp; omega)

theorem exists_last_line (file : List Char) :
    ∃ P L, file = P ++ L ∧ (P = [] ∨ P.getLast? = some '\n') ∧ '\n' ∉ L := by
  induction file using List.reverseRecOn with
  | nil => exact ⟨[], [], rfl, .inl rfl, List.not_mem_nil _⟩
  | append_singleton file c ih =>
    obtain ⟨P, L, rfl, hP, hL⟩ := ih
    by_cases hc : c = '\n'
    · exact ⟨P ++ L ++ [c], [], by simp, .inr (by simp [hc]), List.not_mem_nil _⟩
    · exact ⟨P, L ++ [c], by simp, hP, by simp [hL, Ne.symm hc]⟩

/-- One more newline at the end of a file changes nothing `parse_config_file` returns. -/
theorem parseConfigFile_append_newline (wpa : WpaSupplicant) (file : List Char) :
    parseConfigFile wpa (some (file ++ ['\n'])) = parseConfigFile wpa (some file) := by
  obtain ⟨P, L, rfl, hP, hL⟩ := exists_last_line file
  simp only [parseConfigFile, List.append_assoc]
  rw [readLines_append _ hP le_rfl, readLines_append _ hP le_rfl, List.foldl_append,
    List.foldl_append, foldl_readLines_append_newline hL]

theorem takeWhile_blanks_hash {blanks : List Char} (hb : ∀ c ∈ blanks, c = ' ' ∨ c = '\t')
    {d : Char} (hd : d ≠ ' ' ∧ d ≠ '\t') (tail : List Char) :
    (blanks ++ '#' :: tail).takeWhile (· ≠ d) =
      blanks ++ (if '#' = d then [] else '#' :: tail.takeWhile (· ≠ d)) := by
  rw [List.takeWhile_append_of_pos fun c hc => by
    rcases hb c hc with rfl | rfl <;> simp [Ne.symm hd.1, Ne.symm hd.2]]
  by_cases h : '#' = d <;> simp [List.takeWhile_cons, h]

theorem lineContent_comment {blanks : List Char} (hb : ∀ c ∈ blanks, c = ' ' ∨ c = '\t')
    (tail : List Char) : lineContent (blanks ++ '#' :: tail) = [] := by
  have hnul := takeWhile_blanks_hash hb (d := '\x00') (by decide) tail
  have hnl := takeWhile_blanks_hash hb (d := '\n') (by decide) (tail.takeWhile (· ≠ '\x00'))
  have hhash := takeWhile_blanks_hash hb (d := '#') (by decide)
    ((tail.takeWhile (· ≠ '\x00')).takeWhile (· ≠ '\n'))
  simp only [Char.reduceEq, if_false, if_true, List.append_nil] at hnul hnl hhash
  rw [lineContent, cString, cutAt, cutAt, hnul, hnl, hhash, skipBlanks,
    List.dropWhile_eq_nil_iff]
  intro c hc
  rcases hb c hc with rfl | rfl <;> rfl

/-- A comment line of at most 255 characters is read in one or two buffers, each of them
nothing but blanks and comment. -/
theorem comment_reads_skipped {blanks rest : List Char} (hb : ∀ c ∈ blanks, c = ' ' ∨ c = '\t')
    (hn : '\n' ∉ rest) (hlen : (blanks ++ '#' :: rest).length ≤ 255) :
    ∀ b ∈ readLines 256 ((blanks ++ '#' :: rest) ++ ['\n']).length
      ((blanks ++ '#' :: rest) ++ ['\n']), lineContent b = [] := by
  have hnl : '\n' ∉ blanks ++ '#' :: rest := by
    simp only [List.mem_append, List.mem_cons, not_or]
    exact ⟨fun h => by simpa using hb _ h, by decide, hn⟩
  have hcomment : lineContent ((blanks ++ '#' :: rest) ++ ['\n']) = [] := by
    rw [List.append_assoc, List.cons_append, lineContent_comment hb]
  rw [readLines_eq_cons (by simp)]
  rcases Nat.lt_or_eq_of_le hlen with hlt | heq
  · rw [readUpTo_line [] hnl hlt]
    intro b hmem
    simp only [List.length_nil, readLines_nil, List.mem_singleton] at hmem
    rw [hmem, hcomment]
  · rw [readUpTo_full ['\n'] hnl heq]
    intro b hmem
    have hread : readLines 256 1 ['\n'] = [['\n']] := rfl
    simp only [List.length_singleton, hread, List.mem_cons, List.mem_singleton,
      List.not_mem_nil, or_false] at hmem
    rcases hmem with rfl | rfl
    · exact lineContent_comment hb rest
    · rfl

/-- A comment line of at most 255 characters (blanks, then `#`), put between two lines of any
file, changes nothing `parse_config_file` returns. -/
theorem short_comment_line_ignored (wpa : WpaSupplicant) {A B blanks rest : List Char}
    (hA : A = [] ∨ A.getLast? = some '\n') (hb : ∀ c ∈ blanks, c = ' ' ∨ c = '\t')
    (hn : '\n' ∉ rest) (hlen : (blanks ++ '#' :: rest).length ≤ 255) :
    parseConfigFile wpa (some (A ++ (blanks ++ '#' :: rest) ++ '\n' :: B)) =
      parseConfigFile wpa (some (A ++ B)) := by
  have hsplit : A ++ (blanks ++ '#' :: rest) ++ '\n' :: B =
      A ++ (((blanks ++ '#' :: rest) ++ ['\n']) ++ B) := by simp
  have hC : ((blanks ++ '#' :: rest) ++ ['\n']).getLast? = some '\n' :=
    List.getLast?_eq_some_iff.mpr ⟨_, rfl⟩
  simp only [parseConfigFile, hsplit]
  rw [readLines_append _ hA le_rfl, readLines_append _ hA le_rfl,
    readLines_append B (.inr hC) le_rfl, List.foldl_append, List.foldl_append, List.foldl_append,
    foldl_parseConfigLine_skip (comment_reads_skipped hb hn hlen)]

theorem indented_comment_ignored :
    parseConfigFile ⟨[], [], 1⟩ (some ("ap_scan=1\n".toList ++ ("  ".toList ++ '#' :: " home".toList) ++
        '\n' :: "network=\x7b\n\x7d\n".toList)) =
      parseConfigFile ⟨[], [], 1⟩ (some ("ap_scan=1\n".toList ++ "network=\x7b\n\x7d\n".toList)) :=
  short_comment_line_ignored _ (.inr (by decide)) (by decide) (by decide) (by decide)

/-- A comment line of 264 characters whose last nine are `network={`. -/
def longComment : List Char :=
  '#' :: List.replicate 254 'x' ++ "network=\x7b".toList

set_option maxRecDepth 20000 in
theorem long_comment_line_opens_block :
    (parseConfigFile ⟨[], [], 1⟩
        (some ("ctrl_interface=/run\n".toList ++ longComment ++ '\n' :: "\x7d\n".toList))).2.networks =
      [newProfile] ∧
    (parseConfigFile ⟨[], [], 1⟩ (some ("ctrl_interface=/run\n".toList ++ "\x7d\n".toList))).2.networks =
      [] := by
  decide

end ReactOs.Wpa
