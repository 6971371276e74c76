import CommentSieve.Text.Property.Basic

/-!
# Parts of a text

What a character means where a text is divided into letters, words and sentences. Most
of it follows from other properties; the tables have the rest.
-/

namespace CommentSieve.Text.Property

/-- What the characters are to the division of a text into letters, as far as that is not
told by other properties. -/
def graphemeTable : List NamedSet := [
  ⟨["cr"], "D"⟩,
  ⟨["lf"], "A"⟩,
  ⟨["cn", "control"],
    "0-9 B-C E-1F 7F-9F AD 61C 180E 200B 200E-200F 2028-202E 2060-206F FEFF FFF0-FFFB
     13430-1343F 1BCA0-1BCA3 1D173-1D17A E0000-E001F E0080-E00FF E01F0-E0FFF"⟩,
  ⟨["l"], "1100-115F A960-A97C"⟩,
  ⟨["v"], "1160-11A7 D7B0-D7C6 16D63 16D67-16D6A"⟩,
  ⟨["t"], "11A8-11FF D7CB-D7FB"⟩,
  ⟨["pp", "prepend"],
    "600-605 6DD 70F 890-891 8E2 D4E 110BD 110CD 111C2-111C3 113D1 1193F 11941 11A84-11A89
     11D46 11F02"⟩,
  ⟨["ri", "regionalindicator"], "1F1E6-1F1FF"⟩,
  ⟨["zwj"], "200D"⟩]

/-- The same for the division into words. -/
def wordTable : List NamedSet := [
  ⟨["cr"], "D"⟩,
  ⟨["dq", "doublequote"], "22"⟩,
  ⟨["ex", "extendnumlet"], "5F 202F 203F-2040 2054 FE33-FE34 FE4D-FE4F FF3F"⟩,
  ⟨["hl", "hebrewletter"],
    "5D0-5EA 5EF-5F2 FB1D FB1F-FB28 FB2A-FB36 FB38-FB3C FB3E FB40-FB41 FB43-FB44 FB46-FB4F"⟩,
  ⟨["ka", "katakana"],
    "3031-3035 309B-309C 30A0-30FA 30FC-30FF 31F0-31FF 32D0-32FE 3300-3357 FF66-FF9D
     1AFF0-1AFF3 1AFF5-1AFFB 1AFFD-1AFFE 1B000 1B120-1B122 1B155 1B164-1B167"⟩,
  ⟨["lf"], "A"⟩,
  ⟨["ml", "midletter"], "3A B7 387 55F 5F4 2027 FE13 FE55 FF1A"⟩,
  ⟨["mn", "midnum"], "2C 3B 37E 589 60C-60D 66C 7F8 2044 FE10 FE14 FE50 FE54 FF0C FF1B"⟩,
  ⟨["mb", "midnumlet"], "2E 2018-2019 2024 FE52 FF07 FF0E"⟩,
  ⟨["nl", "newline"], "B-C 85 2028-2029"⟩,
  ⟨["ri", "regionalindicator"], "1F1E6-1F1FF"⟩,
  ⟨["sq", "singlequote"], "27"⟩,
  ⟨["wsegspace"], "20 1680 2000-2006 2008-200A 205F 3000"⟩,
  ⟨["zwj"], "200D"⟩]

/-- The same for the division into sentences. -/
def sentenceTable : List NamedSet := [
  ⟨["at", "aterm"], "2E 2024 FE52 FF0E"⟩,
  ⟨["cr"], "D"⟩,
  ⟨["lf"], "A"⟩,
  ⟨["sc", "scontinue"],
    "2C-2D 3A-3B 37E 55D 60C-60D 7F8 1802 1808 2013-2014 3001 FE10-FE11 FE13-FE14 FE31-FE32
     FE50-FE51 FE54-FE55 FE58 FE63 FF0C-FF0D FF1A-FF1B FF64"⟩,
  ⟨["se", "sep"], "85 2028-2029"⟩,
  ⟨["sp"], "9 B-C 20 A0 1680 2000-200A 202F 205F 3000"⟩]

end CommentSieve.Text.Property
