import Pagewright.Archive.Format
import Mathlib.Data.List.TakeWhile
import Mathlib.Data.Nat.Digits.Defs

/-! What is packed is unpacked. The records of an archive hold their numbers where these are looked for, so that the
directory leads to the data of every member. A check is made of the same data both times and is never worked out. -/
namespace Pagewright.Archive

section Numbers

@[simp] theorem number_length (width value : Nat) : (number width value).length = width := by simp [number]

/-- A number that its bytes can hold is the one that they write. -/
theorem number_value (width value : Nat) (fits : value < 256 ^ width) :
    (number width value).foldr (fun byte rest => byte.toNat + 256 * rest) 0 = value := by
  induction width generalizing value with
  | zero =>
    rw [Nat.pow_zero,Nat.lt_one_iff] at fits
    rw [fits]
    rfl
  | succ width ih =>
    have higher : (List.range width).map (fun i => UInt8.ofNat (value / 256 ^ (i + 1))) =
        number width (value / 256) := by
      simp only [number,Nat.pow_eq,Nat.pow_succ',Nat.div_div_eq_div_mul]
    have below : value / 256 < 256 ^ width := Nat.div_lt_of_lt_mul (Nat.pow_succ' ▸ fits)
    have split : number (width + 1) value = UInt8.ofNat value :: number width (value / 256) := by
      rw [← higher]
      simp [number,List.range_succ_eq_map,Function.comp_def]
    rw [split,List.foldr_cons,ih _ below,UInt8.toNat_ofNat']
    exact Nat.mod_add_div value 256

end Numbers

section Reading

/-- Data have these bytes from a position on. -/
def Holds (data : ByteArray) (position : Nat) (bytes : List UInt8) : Prop :=
  ∃ before after, data.data.toList = before ++ bytes ++ after ∧ before.length = position

variable {data : ByteArray} {position : Nat} {bytes : List UInt8}

theorem Holds.size (holds : Holds data position bytes) : position + bytes.length ≤ data.size := by
  obtain ⟨before,after,whole,rfl⟩ := holds
  rw [← ByteArray.size_data,← Array.length_toList,whole]
  simp

theorem Holds.left {first second : List UInt8} (holds : Holds data position (first ++ second)) :
    Holds data position first := by
  obtain ⟨before,after,whole,rfl⟩ := holds
  exact ⟨before,second ++ after,by rw [whole]; simp,rfl⟩

theorem Holds.right {first second : List UInt8} (holds : Holds data position (first ++ second)) :
    Holds data (position + first.length) second := by
  obtain ⟨before,after,whole,rfl⟩ := holds
  exact ⟨before ++ first,after,by rw [whole]; simp,by simp⟩

theorem Holds.part {parts : List (List UInt8)} (holds : Holds data position parts.flatten) (i : Nat)
    (part : List UInt8) (ith : parts[i]? = some part) : Holds data (position + (parts.take i).flatten.length) part := by
  obtain ⟨inside,same⟩ := List.getElem?_eq_some_iff.mp ith
  rw [← List.take_append_drop i parts,List.flatten_append,List.drop_eq_getElem_cons inside,List.flatten_cons,same] at holds
  exact holds.right.left

theorem Holds.byte (holds : Holds data position bytes) (i : Nat) (inside : i < bytes.length) :
    data[position + i]?.getD 0 = bytes[i] := by
  have size := holds.size
  obtain ⟨before,after,whole,rfl⟩ := holds
  have within : before.length + i < data.size := by omega
  rw [getElem?_pos data _ within,Option.getD_some,ByteArray.getElem_eq_getElem_data,← Array.getElem_toList]
  simp [whole,inside]

theorem Holds.number {width value : Nat} (holds : Holds data position (number width value))
    (fits : value < 256 ^ width) : numberAt data position width = value := by
  have bytes : (List.range width).map (fun i => data[position + i]?.getD 0) = Archive.number width value := by
    refine List.map_congr_left fun i member => ?_
    have inside : i < (Archive.number width value).length := by simpa using member
    rw [holds.byte i inside]
    simp [Archive.number]
  unfold numberAt
  rw [← List.foldr_map (f := fun i => data[position + i]?.getD 0) (g := fun byte rest => byte.toNat + 256 * rest),bytes]
  exact number_value width value fits

theorem Holds.extract {b : ByteArray} (holds : Holds data position b.data.toList) :
    data.extract position (position + b.size) = b := by
  obtain ⟨before,after,whole,rfl⟩ := holds
  refine ByteArray.ext (Array.toList_inj.mp ?_)
  rw [ByteArray.data_extract,Array.toList_extract,whole]
  simp [List.extract_eq_take_drop,List.append_assoc]

end Reading

section Names

theorem length_bytes (bytes : ByteArray) : bytes.data.toList.length = bytes.size := by simp

theorem toList_loop (bytes : ByteArray) (i : Nat) (read : List UInt8) :
    ByteArray.toList.loop bytes i read = read.reverse ++ bytes.data.toList.drop i := by
  fun_induction ByteArray.toList.loop bytes i read with
  | case1 i read inside ih =>
    have within : i < bytes.data.toList.length := by simpa using inside
    rw [ih,List.drop_eq_getElem_cons within]
    simp [ByteArray.get!,inside]
  | case2 i read outside =>
    rw [List.drop_eq_nil_of_le (by simpa using Nat.le_of_not_lt outside),List.append_nil]

theorem toList_bytes (bytes : ByteArray) : bytes.toList = bytes.data.toList := toList_loop bytes 0 []

/-- A character whose bytes are in the lower half of their range is its own byte. -/
theorem lower_char (c : Char) (lower : ∀ b ∈ String.utf8EncodeChar c, b < 128) :
    (String.utf8EncodeChar c).map (fun b => Char.ofNat b.toNat) = [c] := by
  unfold String.utf8EncodeChar at lower ⊢
  dsimp only at lower ⊢
  split at lower
  case isTrue small =>
    rw [if_pos small,List.map_singleton,UInt8.toNat_ofNat',Nat.mod_eq_of_lt (by omega)]
    exact congrArg (fun c => [c]) (Char.ofNat_toNat c)
  all_goals
    exfalso
    repeat' split at lower
    all_goals
      have first := UInt8.lt_iff_toNat_lt.mp (lower _ List.mem_cons_self)
      rw [UInt8.toNat_ofNat'] at first
      change _ < 128 at first
      omega

theorem lower_chars (chars : List Char) (lower : ∀ b ∈ chars.utf8Encode.data.toList, b < 128) :
    chars.utf8Encode.data.toList.map (fun b => Char.ofNat b.toNat) = chars := by
  induction chars with
  | nil => rfl
  | cons c chars ih =>
    rw [List.utf8Encode_cons,ByteArray.toList_data_append,List.utf8Encode_singleton,List.toList_data_toByteArray]
      at lower ⊢
    rw [List.forall_mem_append] at lower
    rw [List.map_append,lower_char c lower.1,ih lower.2]
    rfl

theorem chars_written (name : String) (utf8 : Bool) (is : utf8 = !name.toUTF8.toList.all (· < 128)) :
    (if utf8 then ((String.fromUTF8? name.toUTF8).getD "").toList
      else name.toUTF8.toList.map fun b =>
        if b < 128 then Char.ofNat b.toNat else upperHalf.getD (b.toNat - 128) ' ') = name.toList := by
  cases utf8 with
  | true =>
    have valid : String.fromUTF8? name.toUTF8 = some name := by
      unfold String.fromUTF8?
      exact dif_pos name.isValidUTF8
    rw [if_pos rfl,valid,Option.getD_some]
  | false =>
    have lower : ∀ b ∈ name.toUTF8.toList, b < 128 := by
      simpa using is
    rw [if_neg Bool.false_ne_true,List.map_congr_left fun b member => if_pos (lower b member)]
    rw [toList_bytes] at lower ⊢
    have bytes : name.toUTF8 = name.toList.utf8Encode := by
      rw [← String.toByteArray_ofList,String.ofList_toList]
      rfl
    rw [bytes] at lower ⊢
    exact lower_chars name.toList lower

theorem nameOf_written (name : String) (utf8 : Bool) (is : utf8 = !name.toUTF8.toList.all (· < 128))
    (clean : Char.ofNat 0 ∉ name.toList) : nameOf utf8 name.toUTF8 = name := by
  unfold nameOf
  dsimp only
  rw [chars_written name utf8 is,List.takeWhile_eq_self_iff.mpr,String.ofList_toList]
  intro c member
  have other : c ≠ Char.ofNat 0 := fun same => clean (same ▸ member)
  have positive : c.toNat ≠ 0 := fun zero => other (by rw [← Char.ofNat_toNat c,zero])
  exact bne_iff_ne.mpr positive

end Names

section Records

variable (data : ByteArray) (name : String) (body : ByteArray)

/-- The parts of a directory record in front of the name. -/
def directoryParts (offset : Nat) : List (List UInt8) :=
  [number 4 directorySignature,number 2 20] ++ dataFields name.toUTF8 body ++
    [number 2 0,number 2 0,number 2 0,number 4 0,number 4 offset]

theorem directoryRecord_parts (offset : Nat) : (directoryRecord name.toUTF8 body offset).data.toList =
    (directoryParts name body offset).flatten ++ name.toUTF8.data.toList := by
  rw [directoryRecord,ByteArray.toList_data_append,bytesOf,List.toList_data_toByteArray]
  rfl

theorem localRecord_parts : (localRecord name.toUTF8 body).data.toList =
    (number 4 localSignature :: dataFields name.toUTF8 body).flatten ++
      (name.toUTF8.data.toList ++ body.data.toList) := by
  rw [localRecord,ByteArray.toList_data_append,ByteArray.toList_data_append,bytesOf,List.toList_data_toByteArray,
    List.append_assoc]

theorem memberData_record (label : String) (offset : Nat) (short : name.utf8ByteSize < 256 ^ 2)
    (record : Holds data offset (localRecord name.toUTF8 body).data.toList) :
    memberData data label offset 0 (checksum body).toNat body.size = .ok body := by
  rw [localRecord_parts] at record
  have header := record.left
  have signature : numberAt data offset 4 = localSignature := (header.part 0 _ rfl).number (by decide)
  have length : numberAt data (offset + 26) 2 = name.utf8ByteSize := (header.part 9 _ rfl).number short
  have extra : numberAt data (offset + 28) 2 = 0 := (header.part 10 _ rfl).number (by decide)
  have here : data.extract (offset + 30 + name.utf8ByteSize) (offset + 30 + name.utf8ByteSize + body.size) = body :=
    record.right.right.extract
  have long : ¬ data.size < offset + localSize := Nat.not_lt.mpr header.size
  unfold memberData
  rw [if_neg long,signature,if_neg (by decide),if_neg (by decide),length,extra]
  dsimp only [localSize,Nat.add_zero]
  rw [here,if_pos (beq_self_eq_true _)]

theorem readDirectory_record (stop fuel position offset : Nat) (clean : Char.ofNat 0 ∉ name.toList)
    (short : name.utf8ByteSize < 256 ^ 2) (small : body.size < 256 ^ 4) (near : offset < 256 ^ 4)
    (inside : position + directorySize + name.utf8ByteSize ≤ stop)
    (record : Holds data offset (localRecord name.toUTF8 body).data.toList)
    (entry : Holds data position (directoryRecord name.toUTF8 body offset).data.toList) :
    readDirectory data 0 stop (fuel + 1) position = (do return ⟨name,.ok body⟩ ::
      (← readDirectory data 0 stop fuel (position + directorySize + name.utf8ByteSize))) := by
  rw [directoryRecord_parts] at entry
  have header := entry.left
  have signature : numberAt data position 4 = directorySignature := (header.part 0 _ rfl).number (by decide)
  have flags : (numberAt data (position + 8) 2 &&& utf8Flag != 0) = !name.toUTF8.toList.all (· < 128) := by
    have read : numberAt data (position + 8) 2 = if name.toUTF8.toList.all (· < 128) then 0 else utf8Flag :=
      (header.part 3 _ rfl).number (by split <;> decide)
    rw [read]
    cases name.toUTF8.toList.all (· < 128) <;> rfl
  have method : numberAt data (position + 10) 2 = 0 := (header.part 4 _ rfl).number (by decide)
  have check : numberAt data (position + 16) 4 = (checksum body).toNat :=
    (header.part 7 _ rfl).number (checksum body).toNat_lt
  have size : numberAt data (position + 20) 4 = body.size := (header.part 8 _ rfl).number small
  have length : numberAt data (position + 28) 2 = name.utf8ByteSize := (header.part 10 _ rfl).number short
  have extra : numberAt data (position + 30) 2 = 0 := (header.part 11 _ rfl).number (by decide)
  have comment : numberAt data (position + 32) 2 = 0 := (header.part 12 _ rfl).number (by decide)
  have start : numberAt data (position + 42) 4 = offset := (header.part 16 _ rfl).number near
  have called : data.extract (position + directorySize) (position + directorySize + name.utf8ByteSize) = name.toUTF8 :=
    entry.right.extract
  have before : ¬ stop ≤ position := by
    have : directorySize = 46 := rfl
    omega
  have room : ¬ stop < position + directorySize := by omega
  rw [readDirectory,if_neg before,if_neg room,signature,if_neg (by decide)]
  dsimp only
  rw [flags,method,check,size,length,extra,comment,start,called,Nat.add_zero,Nat.add_zero,
    nameOf_written name _ rfl clean,memberData_record data name body name offset short record]

end Records

section Members

/-- The members of an archive of files. -/
def contents (files : List (String × ByteArray)) : List Member := files.map fun m => ⟨m.1,.ok m.2⟩

/-- The local records of files in order. -/
def localRecords : List (String × ByteArray) → ByteArray
  | [] => ByteArray.empty
  | (name,body) :: rest => localRecord name.toUTF8 body ++ localRecords rest

/-- The directory of files whose records start at an offset. -/
def directoryRecords (offset : Nat) : List (String × ByteArray) → ByteArray
  | [] => ByteArray.empty
  | (name,body) :: rest => directoryRecord name.toUTF8 body offset ++
      directoryRecords (offset + (localRecord name.toUTF8 body).size) rest

theorem pack_records (files : List (String × ByteArray)) : pack files =
    localRecords files ++ directoryRecords 0 files ++
      endRecord files.length (directoryRecords 0 files).size (localRecords files).size := by
  have every (files : List (String × ByteArray)) (records directory : ByteArray) :
      files.foldl (fun (acc : ByteArray × ByteArray) m =>
        (acc.1 ++ localRecord m.1.toUTF8 m.2,acc.2 ++ directoryRecord m.1.toUTF8 m.2 acc.1.size)) (records,directory) =
      (records ++ localRecords files,directory ++ directoryRecords records.size files) := by
    induction files generalizing records directory with
    | nil => simp [localRecords,directoryRecords]
    | cons m rest ih =>
      rw [List.foldl_cons,ih]
      simp [localRecords,directoryRecords,ByteArray.append_assoc]
  unfold pack
  dsimp only
  rw [every files ByteArray.empty ByteArray.empty,ByteArray.empty_append,ByteArray.empty_append,ByteArray.size_empty]

/-- What an archive of files takes. -/
def packedSize (files : List (String × ByteArray)) : Nat :=
  (files.map fun m => localSize + directorySize + 2 * m.1.utf8ByteSize + m.2.size).sum + endSize

theorem size_localRecord (name : String) (body : ByteArray) :
    (localRecord name.toUTF8 body).size = localSize + name.utf8ByteSize + body.size := by
  rw [← length_bytes,localRecord_parts,List.length_append,List.length_append,length_bytes,length_bytes,← Nat.add_assoc]
  rfl

theorem size_directoryRecord (name : String) (body : ByteArray) (offset : Nat) :
    (directoryRecord name.toUTF8 body offset).size = directorySize + name.utf8ByteSize := by
  rw [← length_bytes,directoryRecord_parts,List.length_append,length_bytes]
  rfl

theorem size_records (files : List (String × ByteArray)) (offset : Nat) :
    (localRecords files).size + (directoryRecords offset files).size + endSize = packedSize files := by
  induction files generalizing offset with
  | nil => rfl
  | cons m rest ih =>
    specialize ih (offset + (localRecord m.1.toUTF8 m.2).size)
    simp only [localRecords,directoryRecords,packedSize,ByteArray.size_append,List.map_cons,List.sum_cons] at ih ⊢
    rw [size_localRecord] at ih ⊢
    rw [size_directoryRecord]
    omega

theorem length_directory (files : List (String × ByteArray)) (offset : Nat) :
    files.length ≤ (directoryRecords offset files).size := by
  induction files generalizing offset with
  | nil => exact Nat.zero_le _
  | cons m rest ih =>
    have more := ih (offset + (localRecord m.1.toUTF8 m.2).size)
    rw [directoryRecords,ByteArray.size_append,size_directoryRecord,List.length_cons]
    have : directorySize = 46 := rfl
    omega

/-- The directory of files is read wherever it stands, if it leads to their records. -/
theorem readDirectory_records (data : ByteArray) (stop : Nat) (small : data.size < 256 ^ 4)
    (files : List (String × ByteArray)) (offset position fuel : Nat)
    (clean : ∀ m ∈ files, Char.ofNat 0 ∉ m.1.toList) (short : ∀ m ∈ files, m.1.utf8ByteSize < 256 ^ 2)
    (records : Holds data offset (localRecords files).data.toList)
    (directory : Holds data position (directoryRecords offset files).data.toList)
    (ends : position + (directoryRecords offset files).size = stop) (enough : files.length < fuel) :
    readDirectory data 0 stop fuel position = .ok (contents files) := by
  obtain ⟨fuel,rfl⟩ := Nat.exists_eq_add_one_of_ne_zero (Nat.ne_zero_of_lt enough)
  induction files generalizing offset position fuel with
  | nil =>
    have done : stop ≤ position := Nat.le_of_eq ends.symm
    rw [readDirectory,if_pos done]
    rfl
  | cons m rest ih =>
    obtain ⟨name,body⟩ := m
    obtain ⟨clean,cleans⟩ := List.forall_mem_cons.mp clean
    obtain ⟨short,shorts⟩ := List.forall_mem_cons.mp short
    obtain ⟨fuel,rfl⟩ := Nat.exists_eq_add_one_of_ne_zero (Nat.ne_zero_of_lt (Nat.lt_of_succ_lt_succ enough))
    rw [localRecords,ByteArray.toList_data_append] at records
    rw [directoryRecords,ByteArray.toList_data_append] at directory
    rw [directoryRecords,ByteArray.size_append,size_directoryRecord,← Nat.add_assoc,← Nat.add_assoc] at ends
    have held := records.left.size
    have later := records.right
    have beyond := directory.right
    rw [length_bytes] at held later beyond
    rw [size_localRecord] at held
    rw [size_directoryRecord,← Nat.add_assoc] at beyond
    rw [readDirectory_record data name body stop (fuel + 1) position offset clean short (by omega) (by omega) (by omega)
      records.left directory.left,ih _ _ cleans shorts later beyond ends fuel (Nat.lt_of_succ_lt_succ enough)]
    rfl

theorem endRecord_parts (count size offset : Nat) : (endRecord count size offset).data.toList =
    [number 4 endSignature,number 2 0,number 2 0,number 2 count,number 2 count,number 4 size,number 4 offset,
      number 2 0].flatten := by
  rw [endRecord,bytesOf,List.toList_data_toByteArray]

theorem size_endRecord (count size offset : Nat) : (endRecord count size offset).size = endSize := by
  rw [← length_bytes,endRecord_parts]
  rfl

/-- The end record says where the directory stands. -/
theorem endRecord_read (data records directory : ByteArray) (count : Nat)
    (small : records.size + directory.size < 256 ^ 4)
    (whole : data = records ++ directory ++ endRecord count directory.size records.size) :
    endPosition? data = some (records.size + directory.size) ∧
    numberAt data (records.size + directory.size + 12) 4 = directory.size ∧
    numberAt data (records.size + directory.size + 16) 4 = records.size := by
  have last : Holds data (records.size + directory.size) (endRecord count directory.size records.size).data.toList :=
    ⟨(records ++ directory).data.toList,[],by rw [whole]; simp,by simp⟩
  have size : data.size = records.size + directory.size + endSize := by
    rw [whole,ByteArray.size_append,ByteArray.size_append,size_endRecord]
  rw [endRecord_parts] at last
  have signature : numberAt data (records.size + directory.size) 4 = endSignature :=
    (last.part 0 _ rfl).number (by decide)
  have comment : numberAt data (records.size + directory.size + 20) 2 = 0 := (last.part 7 _ rfl).number (by decide)
  refine ⟨?_,(last.part 5 _ rfl).number (by omega),(last.part 6 _ rfl).number (by omega)⟩
  unfold endPosition?
  rw [size,if_neg (by omega),Nat.add_sub_cancel]
  dsimp only
  rw [signature,comment,if_pos (by decide)]

/-- An archive of files with names that a record can hold has exactly these as its members. -/
theorem unpack_pack (files : List (String × ByteArray)) (clean : ∀ m ∈ files, Char.ofNat 0 ∉ m.1.toList)
    (short : ∀ m ∈ files, m.1.utf8ByteSize < 256 ^ 2) (small : packedSize files < 256 ^ 4) :
    unpack (pack files) = .ok (contents files) := by
  have sizes := size_records files 0
  have more := length_directory files 0
  have whole := pack_records files
  obtain ⟨found,long,starts⟩ := endRecord_read _ _ _ _ (by omega) whole
  have size : (pack files).size = packedSize files := by
    rw [whole,ByteArray.size_append,ByteArray.size_append,size_endRecord]
    exact sizes
  have records : Holds (pack files) 0 (localRecords files).data.toList :=
    ⟨[],_,by rw [whole,ByteArray.append_assoc,ByteArray.toList_data_append]; rfl,rfl⟩
  have directory : Holds (pack files) (localRecords files).size (directoryRecords 0 files).data.toList :=
    ⟨_,_,by rw [whole,ByteArray.toList_data_append,ByteArray.toList_data_append],length_bytes _⟩
  unfold unpack
  rw [found]
  dsimp only
  rw [long,starts,if_neg (by omega),Nat.add_sub_cancel,Nat.sub_self]
  exact readDirectory_records _ _ (size ▸ small) files 0 _ _ clean short records directory rfl (by omega)

end Members
end Pagewright.Archive
