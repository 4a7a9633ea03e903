import ReactOs.Wpa.ConfigLaws

namespace ReactOs.Wpa

/-- A `network={` line: the test `parse_config_file` makes on what is left of it. -/
def opensBlock (l : List Char) : Bool :=
  "network=\x7b".toList.isPrefixOf (lineContent l)

/-- A `}` line: the test `parse_config_file` makes inside a block. -/
def closesBlock (l : List Char) : Bool :=
  (lineContent l).head? = some '}'

/-- A line inside a block. -/
inductive BlockLine
  /-- `ssid="S"` or `psk="S"` after blanks. -/
  | quoted (indent : List Char) (key : String) (text : List Char)
  /-- Another `key=value` line after blanks. -/
  | setting (indent key value : List Char)
  /-- A line with nothing before its comment. -/
  | skipped (l : List Char)

namespace BlockLine

/-- The line as the file holds it. -/
def line : BlockLine → List Char
  | quoted indent key text => indent ++ key.toList ++ '=' :: '"' :: text ++ ['"']
  | setting indent key value => indent ++ key ++ '=' :: value
  | skipped l => l

/-- The text `S` of a line `k="S"`. -/
def quotedText (k : String) : BlockLine → Option (List Char)
  | quoted _ key text => if key = k then some text else none
  | _ => none

/-- The lines a block may hold: `ssid` and `psk` lines hold `"S"` with no newline in `S`,
other lines are `key=value` lines that do not open a block, or lines with
nothing before their comment. -/
def Wf : BlockLine → Prop
  | quoted indent key text => (∀ c ∈ indent, c = ' ' ∨ c = '\t') ∧ (key = "ssid" ∨ key = "psk") ∧
      '\n' ∉ text
  | setting indent key value => (∀ c ∈ indent, c = ' ' ∨ c = '\t') ∧ key ≠ [] ∧
      (∀ c ∈ key, c.isAlphanum ∨ c = '_') ∧ key ≠ "ssid".toList ∧ key ≠ "psk".toList ∧
      opensBlock (indent ++ key ++ '=' :: value) = false
  | skipped l => lineContent l = []

instance : DecidablePred Wf := fun b => by cases b <;> dsimp only [Wf] <;> infer_instance

/-- A quoted text that `%127s` reads whole: no white space, `#` or NUL in it, and at most
125 characters, so that the 127 characters reach its closing quote. -/
def Plain : BlockLine → Prop
  | quoted _ _ text => (∀ c ∈ text, isSpace c = false ∧ c ≠ '#' ∧ c ≠ '\x00') ∧ text.length ≤ 125
  | _ => True

instance : DecidablePred Plain := fun b => by cases b <;> dsimp only [Plain] <;> infer_instance

end BlockLine

/-- A line outside the blocks, or a block: its `network={` line, its lines, its `}` line. -/
inductive ConfigItem
  | line (l : List Char)
  | block (opener : List Char) (body : List BlockLine) (closer : List Char)

namespace ConfigItem

/-- The lines of the item. -/
def lines : ConfigItem → List (List Char)
  | line l => [l]
  | block opener body closer => opener :: body.map BlockLine.line ++ [closer]

/-- The lines of a block. -/
def body? : ConfigItem → Option (List BlockLine)
  | block _ body _ => some body
  | line _ => none

/-- A well-formed item: a line outside the blocks does not open one, and a block
is a `network={` line, lines of the block, and a `}` line. -/
def Wf : ConfigItem → Prop
  | line l => opensBlock l = false
  | block opener body closer =>
    opensBlock opener = true ∧ (∀ b ∈ body, b.Wf) ∧ closesBlock closer = true

instance : DecidablePred Wf := fun it => by cases it <;> dsimp only [Wf] <;> infer_instance

end ConfigItem

/-- The file of the items, each line ended by a newline. -/
def configText (items : List ConfigItem) : List Char :=
  (items.flatMap ConfigItem.lines).flatMap (· ++ ['\n'])

/-- The SSID and passphrase a block asks for: the first 32 and 63 characters of
the quoted texts of its last `ssid` and `psk` lines, empty without such a line. -/
def blockKeys (body : List BlockLine) : String × String :=
  (⟨((body.filterMap (BlockLine.quotedText "ssid")).getLast?.getD []).take 32⟩,
    ⟨((body.filterMap (BlockLine.quotedText "psk")).getLast?.getD []).take 63⟩)

theorem parseConfigLine_outside (h : opensBlock l = false) (w : WpaSupplicant) :
    ∃ w', parseConfigLine ⟨w, false, none⟩ l = ⟨w', false, none⟩ ∧ w'.networks = w.networks := by
  rw [opensBlock] at h
  simp only [parseConfigLine, h, Bool.false_eq_true, if_false, false_and]
  split_ifs
  · exact ⟨w, rfl, rfl⟩
  · split
    · split_ifs
      · exact ⟨_, rfl, rfl⟩
      · exact ⟨w, rfl, rfl⟩
    · exact ⟨w, rfl, rfl⟩

theorem parseConfigLine_opener (h : opensBlock l = true) (st : ConfigState) :
    parseConfigLine st l = { st with inNetworkBlock := true, currentNetwork := some newProfile } := by
  have hne : lineContent l ≠ [] := by
    intro h0; rw [opensBlock, h0] at h; cases h
  rw [opensBlock] at h
  simp only [parseConfigLine, hne, h, if_true, if_false]

theorem parseConfigLine_closer (h : closesBlock l = true) (w : WpaSupplicant) (net : NetworkProfile) :
    parseConfigLine ⟨w, true, some net⟩ l =
      ⟨{ w with networks := net :: w.networks }, false, none⟩ := by
  rw [closesBlock, decide_eq_true_eq] at h
  obtain ⟨p, hp⟩ : ∃ p, lineContent l = '}' :: p := by
    cases hc : lineContent l with
    | nil => rw [hc] at h; cases h
    | cons c p => rw [hc] at h; cases h; exact ⟨p, rfl⟩
  simp only [parseConfigLine, hp]
  rfl

/-- After blanks, a text with no NUL, newline or `#`, which does not start with a blank, is
what the loop body goes on with, followed by what is left of the rest of the line. -/
theorem lineContent_indent {indent X : List Char} {c : Char}
    (hi : ∀ a ∈ indent, a = ' ' ∨ a = '\t') (hX : ∀ a ∈ c :: X, a ≠ '\x00' ∧ a ≠ '\n' ∧ a ≠ '#')
    (hc : c ≠ ' ' ∧ c ≠ '\t') (Y : List Char) :
    lineContent ((indent ++ c :: X) ++ Y) = c :: X ++ cutAt '#' (cutAt '\n' (cString Y)) := by
  have hA : ∀ a ∈ indent ++ c :: X, a ≠ '\x00' ∧ a ≠ '\n' ∧ a ≠ '#' := by
    intro a ha
    rcases List.mem_append.mp ha with ha | ha
    · rcases hi a ha with rfl | rfl <;> decide
    · exact hX a ha
  have h₁ : cString ((indent ++ c :: X) ++ Y) = (indent ++ c :: X) ++ cString Y :=
    List.takeWhile_append_of_pos fun a ha => by simpa using (hA a ha).1
  have h₂ : cutAt '\n' ((indent ++ c :: X) ++ cString Y) =
      (indent ++ c :: X) ++ cutAt '\n' (cString Y) :=
    List.takeWhile_append_of_pos fun a ha => by simpa using (hA a ha).2.1
  have h₃ : cutAt '#' ((indent ++ c :: X) ++ cutAt '\n' (cString Y)) =
      (indent ++ c :: X) ++ cutAt '#' (cutAt '\n' (cString Y)) :=
    List.takeWhile_append_of_pos fun a ha => by simpa using (hA a ha).2.2
  have h₄ : ∀ W, skipBlanks ((indent ++ c :: X) ++ W) = c :: X ++ W := by
    intro W
    rw [skipBlanks, List.append_assoc, List.dropWhile_append_of_pos fun a ha => by
      rcases hi a ha with rfl | rfl <;> rfl]
    exact List.dropWhile_cons_of_neg (by simpa using hc)
  rw [lineContent, h₁, h₂, h₃, h₄]

theorem takeWhile_key {key : List Char} (he : '=' ∉ key) (rest : List Char) :
    (key ++ '=' :: rest).takeWhile (· ≠ '=') = key := by
  rw [List.takeWhile_append_of_pos fun a ha => by
    simp only [ne_eq, decide_eq_true_eq]; rintro rfl; exact he ha]
  simp

/-- `sscanf` on `key=...` with a key of at most 63 characters reads that key. -/
theorem scanKeyValue_short {key : List Char} (hk : key ≠ []) (he : '=' ∉ key)
    (hlen : key.length ≤ 63) (rest : List Char) :
    scanKeyValue (key ++ '=' :: rest) =
      let value := ((rest.dropWhile isSpace).takeWhile fun c => !isSpace c).take 127
      if value = [] then none else some (key, value) := by
  simp only [scanKeyValue, takeWhile_key he, List.take_of_length_le hlen, List.drop_left, hk,
    false_or]

/-- `sscanf` on `key=...` with a key without `=` reads that key or fails. -/
theorem scanKeyValue_key {key : List Char} (hk : key ≠ []) (he : '=' ∉ key) (rest : List Char) :
    scanKeyValue (key ++ '=' :: rest) = none ∨ ∃ v, scanKeyValue (key ++ '=' :: rest) = some (key, v) := by
  by_cases hlen : key.length ≤ 63
  · rw [scanKeyValue_short hk he hlen]
    dsimp only
    split_ifs
    · exact .inl rfl
    · exact .inr ⟨_, rfl⟩
  · left
    obtain ⟨c, cs, hcs⟩ := List.exists_cons_of_ne_nil (l := key.drop 63) (by simp; omega)
    have hmem : c ∈ key.drop 63 := hcs ▸ List.mem_cons_self c cs
    have hc : c ≠ '=' := fun h => he (h ▸ List.mem_of_mem_drop hmem)
    have hdrop : (key ++ '=' :: rest).drop ((key.take 63).length) = c :: (cs ++ '=' :: rest) := by
      rw [List.length_take, min_eq_left (by omega), List.drop_append_of_le_length (by omega), hcs,
        List.cons_append]
    simp only [scanKeyValue, takeWhile_key he, hdrop]
    split
    · rename_i heq; exact absurd (List.cons.inj heq).1 hc
    · rfl

theorem unquote_quoted (text : List Char) : unquote ('"' :: text ++ ['"']) = text := by
  have hlast : ('"' :: text ++ ['"']).getLast? = some '"' :=
    List.getLast?_eq_some_iff.mpr ⟨'"' :: text, rfl⟩
  rw [unquote, if_pos ⟨rfl, hlast⟩, List.dropLast_concat]
  rfl

/-- `%127s` reads a plain quoted text whole, quotes included. -/
theorem scanValue_quoted {text : List Char} (hp : ∀ c ∈ text, isSpace c = false)
    (hl : text.length ≤ 125) :
    ((('"' :: text ++ ['"']).dropWhile isSpace).takeWhile fun c => !isSpace c).take 127 =
      '"' :: text ++ ['"'] := by
  have hall : ∀ c ∈ '"' :: text ++ ['"'], isSpace c = false := by
    intro c hc
    by_cases hq : c = '"'
    · rw [hq]; rfl
    · exact hp c (by simpa [hq] using hc)
  rw [List.cons_append, List.dropWhile_cons_of_neg (by decide), ← List.cons_append,
    List.takeWhile_eq_self_iff.mpr fun c hc => by simp [hall c hc],
    List.take_of_length_le (by simp; omega)]

theorem trimKey_of_not_mem {key : List Char} (h : ' ' ∉ key) : trimKey key = key := by
  rw [trimKey]
  cases hr : key.reverse with
  | nil => simp [List.reverse_eq_nil_iff.mp hr]
  | cons c cs =>
    have hmem : c ∈ key.reverse := hr ▸ List.mem_cons_self c cs
    have hc : c ≠ ' ' := fun he => h (he ▸ List.mem_reverse.mp hmem)
    rw [List.dropWhile_cons_of_neg (by simpa using hc), ← hr, List.reverse_reverse]

theorem applySetting_other {key : List Char} (h₁ : key ≠ "ssid".toList) (h₂ : key ≠ "psk".toList)
    (net : NetworkProfile) (value : List Char) :
    (applySetting net key value).ssid = net.ssid ∧
      (applySetting net key value).passphrase = net.passphrase := by
  rw [applySetting, if_neg h₁, if_neg h₂]
  simp only [apply_ite NetworkProfile.ssid, apply_ite NetworkProfile.passphrase, ite_self, and_self]

/-- A line of a block that neither opens nor closes one: the `key=value` assignment, if
`sscanf` reads one. -/
theorem parseConfigLine_inBlock (hne : lineContent l ≠ []) (hopen : opensBlock l = false)
    (hclose : closesBlock l = false) (w : WpaSupplicant) (net : NetworkProfile) :
    parseConfigLine ⟨w, true, some net⟩ l = ⟨w, true, some (match scanKeyValue (lineContent l) with
      | some (key, value) => applySetting net (trimKey key) (unquote value)
      | none => net)⟩ := by
  rw [opensBlock] at hopen
  have hclose' : ¬(lineContent l).head? = some '}' := by simpa [closesBlock] using hclose
  simp only [parseConfigLine, hne, hopen, hclose', if_false, Bool.false_eq_true, true_and,
    if_true]
  rcases scanKeyValue (lineContent l) with _ | ⟨key, value⟩ <;> rfl

theorem lineContent_indent_all {indent L : List Char} (hi : ∀ a ∈ indent, a = ' ' ∨ a = '\t')
    (hL : ∀ a ∈ L, a ≠ '\x00' ∧ a ≠ '\n' ∧ a ≠ '#') (hh : ∀ c, L.head? = some c → c ≠ ' ' ∧ c ≠ '\t')
    (hne : L ≠ []) : lineContent (indent ++ L) = L := by
  obtain ⟨c, X, rfl⟩ := List.exists_cons_of_ne_nil hne
  have h := lineContent_indent hi hL (hh c rfl) []
  rwa [List.append_nil, show cutAt '#' (cutAt '\n' (cString [])) = [] from rfl,
    List.append_nil] at h

theorem lineContent_quoted {indent text : List Char} {key : String}
    (hi : ∀ a ∈ indent, a = ' ' ∨ a = '\t') (hkey : key = "ssid" ∨ key = "psk")
    (hn : '\n' ∉ text) (hp : ∀ c ∈ text, c ≠ '#' ∧ c ≠ '\x00') :
    lineContent (BlockLine.quoted indent key text).line =
      key.toList ++ '=' :: ('"' :: text ++ ['"']) := by
  have hK : ∀ a ∈ key.toList, a ≠ '\x00' ∧ a ≠ '\n' ∧ a ≠ '#' := by
    rcases hkey with rfl | rfl <;> decide
  rw [BlockLine.line, show indent ++ key.toList ++ '=' :: '"' :: text ++ ['"'] =
    indent ++ (key.toList ++ '=' :: ('"' :: text ++ ['"'])) by simp]
  refine lineContent_indent_all hi (fun a ha => ?_) ?_ (by simp)
  · simp only [List.mem_append, List.mem_cons, List.mem_singleton, List.not_mem_nil,
      or_false] at ha
    rcases ha with ha | rfl | (rfl | ha) | rfl
    · exact hK a ha
    · decide
    · decide
    · exact ⟨(hp a ha).2, fun h => hn (h ▸ ha), (hp a ha).1⟩
    · decide
  · rcases hkey with rfl | rfl <;> intro c hc <;> cases hc <;> decide

theorem keyChar_ne {c : Char} (h : c.isAlphanum = true ∨ c = '_') :
    c ≠ '\x00' ∧ c ≠ '\n' ∧ c ≠ '#' ∧ c ≠ ' ' ∧ c ≠ '\t' ∧ c ≠ '}' ∧ c ≠ '=' := by
  refine ⟨?_, ?_, ?_, ?_, ?_, ?_, ?_⟩ <;> rintro rfl <;> revert h <;> decide

theorem lineContent_setting {indent key : List Char} (hi : ∀ a ∈ indent, a = ' ' ∨ a = '\t')
    (hk : key ≠ []) (hchars : ∀ c ∈ key, c.isAlphanum ∨ c = '_') (value : List Char) :
    lineContent (BlockLine.setting indent key value).line =
      key ++ '=' :: cutAt '#' (cutAt '\n' (cString value)) := by
  obtain ⟨c, K, rfl⟩ := List.exists_cons_of_ne_nil hk
  obtain ⟨-, -, -, hs, ht, -⟩ := keyChar_ne (hchars c (List.mem_cons_self c K))
  have hX : ∀ a ∈ c :: (K ++ ['=']), a ≠ '\x00' ∧ a ≠ '\n' ∧ a ≠ '#' := by
    intro a ha
    rw [← List.cons_append, List.mem_append, List.mem_singleton] at ha
    rcases ha with ha | rfl
    · obtain ⟨h0, hn, hh, -⟩ := keyChar_ne (hchars a ha)
      exact ⟨h0, hn, hh⟩
    · decide
  simpa [BlockLine.line] using lineContent_indent hi hX ⟨hs, ht⟩ value

/-- An `ssid="S"` or `psk="S"` line with a plain `S` assigns `S` to its key. -/
theorem parseConfigLine_quoted {indent text : List Char} {key : String}
    (hw : (BlockLine.quoted indent key text).Wf) (hp : (BlockLine.quoted indent key text).Plain)
    (w : WpaSupplicant) (net : NetworkProfile) :
    parseConfigLine ⟨w, true, some net⟩ (BlockLine.quoted indent key text).line =
      ⟨w, true, some (applySetting net key.toList text)⟩ := by
  obtain ⟨hi, hkey, hn⟩ := hw
  obtain ⟨hplain, hlen⟩ := hp
  have hcontent := lineContent_quoted hi hkey hn fun c hc => (hplain c hc).2
  have hK : key.toList ≠ [] ∧ '=' ∉ key.toList ∧ key.toList.length ≤ 63 ∧ ' ' ∉ key.toList := by
    rcases hkey with rfl | rfl <;> decide
  have hscan : scanKeyValue (lineContent (BlockLine.quoted indent key text).line) =
      some (key.toList, '"' :: text ++ ['"']) := by
    rw [hcontent, scanKeyValue_short hK.1 hK.2.1 hK.2.2.1,
      scanValue_quoted (fun c hc => (hplain c hc).1) hlen]
    simp
  rw [parseConfigLine_inBlock (by rw [hcontent]; simp)
    (by rw [opensBlock, hcontent]; rcases hkey with rfl | rfl <;> rfl)
    (by rw [closesBlock, hcontent]; rcases hkey with rfl | rfl <;> rfl), hscan]
  dsimp only
  rw [trimKey_of_not_mem hK.2.2.2, unquote_quoted]

/-- Any other `key=value` line keeps the SSID and the passphrase, whether `sscanf` reads it
or not. -/
theorem parseConfigLine_setting {indent key value : List Char}
    (hw : (BlockLine.setting indent key value).Wf) (w : WpaSupplicant) (net : NetworkProfile) :
    ∃ net', parseConfigLine ⟨w, true, some net⟩ (BlockLine.setting indent key value).line =
      ⟨w, true, some net'⟩ ∧ net'.ssid = net.ssid ∧ net'.passphrase = net.passphrase := by
  obtain ⟨hi, hk, hchars, hs, hp, hopen⟩ := hw
  have hcontent := lineContent_setting hi hk hchars value
  have hclose : closesBlock (BlockLine.setting indent key value).line = false := by
    obtain ⟨c, K, rfl⟩ := List.exists_cons_of_ne_nil hk
    simp [closesBlock, hcontent, (keyChar_ne (hchars c (List.mem_cons_self c K))).2.2.2.2.2.1]
  rw [parseConfigLine_inBlock (l := (BlockLine.setting indent key value).line)
    (by simp [hcontent]) hopen hclose, hcontent]
  rcases scanKeyValue_key hk (fun h => (keyChar_ne (hchars _ h)).2.2.2.2.2.2 rfl)
    (cutAt '#' (cutAt '\n' (cString value))) with h | ⟨v, h⟩
  · rw [h]; exact ⟨net, rfl, rfl, rfl⟩
  · rw [h]
    refine ⟨_, rfl, ?_⟩
    dsimp only
    rw [trimKey_of_not_mem fun h => (keyChar_ne (hchars _ h)).2.2.2.1 rfl]
    exact applySetting_other hs hp net _

/-- What a line of a block does to the block's profile: an `ssid` or `psk` line sets the SSID
or the passphrase to the first 32 or 63 characters of its text, any other line keeps both. -/
theorem parseConfigLine_blockLine {b : BlockLine} (hw : b.Wf) (hp : b.Plain) (w : WpaSupplicant)
    (net : NetworkProfile) :
    ∃ net', parseConfigLine ⟨w, true, some net⟩ b.line = ⟨w, true, some net'⟩ ∧
      net'.ssid = ((b.quotedText "ssid").map fun s => (⟨s.take 32⟩ : String)).getD net.ssid ∧
      net'.passphrase =
        ((b.quotedText "psk").map fun s => (⟨s.take 63⟩ : String)).getD net.passphrase := by
  cases b with
  | quoted indent key text =>
    refine ⟨_, parseConfigLine_quoted hw hp w net, ?_⟩
    rcases hw.2.1 with rfl | rfl <;> exact ⟨rfl, rfl⟩
  | setting indent key value => exact parseConfigLine_setting hw w net
  | skipped l => exact ⟨net, parseConfigLine_of_content hw _, rfl, rfl⟩

theorem blockKeys_concat (body : List BlockLine) (b : BlockLine) :
    blockKeys (body ++ [b]) =
      (((b.quotedText "ssid").map fun s => (⟨s.take 32⟩ : String)).getD (blockKeys body).1,
        ((b.quotedText "psk").map fun s => (⟨s.take 63⟩ : String)).getD (blockKeys body).2) := by
  rcases hs : b.quotedText "ssid" with _ | t <;> rcases hq : b.quotedText "psk" with _ | u <;>
    simp [blockKeys, hs, hq]

/-- The lines of a block after its `network=\x7b` line: the last `ssid` and `psk` lines give the
profile its SSID and passphrase. -/
theorem foldl_blockLines {body : List BlockLine} (hw : ∀ b ∈ body, b.Wf) (hp : ∀ b ∈ body, b.Plain)
    (w : WpaSupplicant) :
    ∃ net, (body.map BlockLine.line).foldl parseConfigLine ⟨w, true, some newProfile⟩ =
      ⟨w, true, some net⟩ ∧ (net.ssid, net.passphrase) = blockKeys body := by
  induction body using List.reverseRecOn with
  | nil => exact ⟨newProfile, rfl, rfl⟩
  | append_singleton body b ih =>
    obtain ⟨net, hfold, hkeys⟩ := ih (fun b' h => hw b' (List.mem_append_left _ h))
      (fun b' h => hp b' (List.mem_append_left _ h))
    obtain ⟨net', hstep, hs, hq⟩ := parseConfigLine_blockLine (hw b (by simp)) (hp b (by simp)) w net
    refine ⟨net', by rw [List.map_append, List.foldl_append, hfold]; exact hstep, ?_⟩
    rw [blockKeys_concat, ← hkeys, hs, hq]

/-- The lines of the items from outside a block: one profile for each block, pushed in file
order, so the list holds them in reverse. -/
theorem foldl_configItems {items : List ConfigItem} (hwf : ∀ it ∈ items, it.Wf)
    (hplain : ∀ it ∈ items, ∀ body ∈ it.body?, ∀ b ∈ body, b.Plain) (w : WpaSupplicant) :
    ∃ w' nets, (items.flatMap ConfigItem.lines).foldl parseConfigLine ⟨w, false, none⟩ =
      ⟨w', false, none⟩ ∧ w'.networks = nets ++ w.networks ∧
      nets.map (fun n => (n.ssid, n.passphrase)) =
        ((items.filterMap ConfigItem.body?).map blockKeys).reverse := by
  induction items generalizing w with
  | nil => exact ⟨w, [], rfl, rfl, rfl⟩
  | cons it items ih =>
    have hwf' := fun it h => hwf it (List.mem_cons_of_mem _ h)
    have hplain' := fun it h => hplain it (List.mem_cons_of_mem _ h)
    rw [List.flatMap_cons, List.foldl_append]
    cases it with
    | line l =>
      obtain ⟨w₁, hstep, hnets₁⟩ := parseConfigLine_outside (hwf _ (List.mem_cons_self _ _)) w
      obtain ⟨w', nets, hfold, hnets, hkeys⟩ := ih hwf' hplain' w₁
      exact ⟨w', nets, by rw [ConfigItem.lines, List.foldl_cons, hstep]; exact hfold,
        by rw [hnets, hnets₁], by simpa [ConfigItem.body?] using hkeys⟩
    | block opener body closer =>
      obtain ⟨hopen, hbody, hclose⟩ := hwf _ (List.mem_cons_self _ _)
      obtain ⟨net, hblock, hnet⟩ :=
        foldl_blockLines hbody (hplain _ (List.mem_cons_self _ _) body rfl) w
      obtain ⟨w', nets, hfold, hnets, hkeys⟩ := ih hwf' hplain' { w with networks := net :: w.networks }
      refine ⟨w', nets ++ [net], ?_, by rw [hnets, List.append_assoc]; rfl, ?_⟩
      · rw [ConfigItem.lines, List.cons_append, List.foldl_cons, parseConfigLine_opener hopen,
          List.foldl_append]
        dsimp only
        rw [hblock, List.foldl_cons, List.foldl_nil, parseConfigLine_closer hclose, hfold]
      · simp [ConfigItem.body?, hkeys, hnet]

theorem foldl_map_append_newline {ls : List (List Char)} (h : ∀ l ∈ ls, '\n' ∉ l)
    (st : ConfigState) :
    (ls.map (· ++ ['\n'])).foldl parseConfigLine st = ls.foldl parseConfigLine st := by
  induction ls generalizing st with
  | nil => rfl
  | cons l ls ih =>
    rw [List.map_cons, List.foldl_cons, List.foldl_cons,
      parseConfigLine_append_newline (h l (List.mem_cons_self _ _)),
      ih fun l' hl => h l' (List.mem_cons_of_mem _ hl)]

/-- `parse_config_file` on every file of `network=\x7b ... \x7d` blocks with lines shorter than
255 characters, with or without a newline at its end: one profile per block in reverse file
order before the supplicant's own, each with the first 32 characters of the text of its last
`ssid` line and the first 63 of its last `psk` line, for quoted texts that `%127s` reads
whole. -/
theorem config_blocks_parsed (wpa : WpaSupplicant) {items : List ConfigItem} {file : List Char}
    (hwf : ∀ it ∈ items, it.Wf) (hplain : ∀ it ∈ items, ∀ body ∈ it.body?, ∀ b ∈ body, b.Plain)
    (hshort : ∀ l ∈ items.flatMap ConfigItem.lines, l.length < 255 ∧ '\n' ∉ l)
    (hfile : file = configText items ∨ file ++ ['\n'] = configText items) :
    ∃ nets, (parseConfigFile wpa (some file)).2.networks = nets ++ wpa.networks ∧
      nets.map (fun n => (n.ssid, n.passphrase)) =
        ((items.filterMap ConfigItem.body?).map blockKeys).reverse := by
  have hread : parseConfigFile wpa (some file) = parseConfigFile wpa (some (configText items)) := by
    rcases hfile with rfl | h
    · rfl
    · rw [← h, parseConfigFile_append_newline]
  obtain ⟨w', nets, hfold, hnets, hkeys⟩ := foldl_configItems hwf hplain wpa
  refine ⟨nets, ?_, hkeys⟩
  rw [hread, parseConfigFile, configText, readLines_flatMap hshort,
    foldl_map_append_newline fun l hl => (hshort l hl).2, hfold]
  exact hnets

/-- A file with a line outside the blocks, a blank line, a comment in a block, and a `}` after
blanks. -/
def twoBlocks : List ConfigItem :=
  [.line "ap_scan=1".toList,
    .block "network=\x7b".toList
      [.quoted "  ".toList "ssid" "home".toList, .quoted "  ".toList "psk" "secret12".toList,
        .setting "  ".toList "priority".toList "5".toList, .skipped "  # spare".toList]
      "\x7d".toList,
    .line [],
    .block "network=\x7b".toList
      [.quoted "\t".toList "ssid" "cafe".toList, .setting [] "key_mgmt".toList "NONE".toList]
      "  \x7d".toList]

theorem two_blocks_parsed :
    ∃ nets, (parseConfigFile ⟨[], [], 1⟩ (some (configText twoBlocks))).2.networks = nets ++ [] ∧
      nets.map (fun n => (n.ssid, n.passphrase)) =
        ((twoBlocks.filterMap ConfigItem.body?).map blockKeys).reverse :=
  config_blocks_parsed _ (by decide) (by decide) (by decide) (.inl rfl)

/-- A block whose SSID has a space in it. -/
def spacedSsid : List ConfigItem :=
  [.block "network=\x7b".toList [.quoted [] "ssid" "a b".toList] "\x7d".toList]

/-- `%127s` stops at the space: the profile's SSID is `"a`, quote included, not `a b`. -/
theorem spaced_ssid_cut :
    (∀ it ∈ spacedSsid, it.Wf) ∧
      (parseConfigFile ⟨[], [], 1⟩ (some (configText spacedSsid))).2.networks.map
        NetworkProfile.ssid = ["\"a"] ∧
      ((spacedSsid.filterMap ConfigItem.body?).map blockKeys).map Prod.fst = ["a b"] := by
  decide

end ReactOs.Wpa
