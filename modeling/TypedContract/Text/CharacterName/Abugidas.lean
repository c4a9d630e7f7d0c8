/-
# TypedContract.Text.CharacterName.Abugidas -- names of characters

Names of Unicode 14 from code point 900 to 13FF: scripts of South and South-East Asia and their neighbours.
A line with a colon gives a code point and the words that the following names
begin with; the names belong to this and the following code points.
-/

namespace TypedContract.Text.CharacterName

set_option autoImplicit false

/-- The names of scripts of South and South-East Asia and their neighbours. -/
def abugidas : String := "
  900:DEVANAGARI SIGN
  INVERTED CANDRABINDU,CANDRABINDU,ANUSVARA,VISARGA
  904:DEVANAGARI LETTER
  SHORT A,A,AA,I,II,U,UU,VOCALIC R,VOCALIC L,CANDRA E,SHORT E,E,AI,CANDRA O,SHORT O,O,AU,KA,KHA,GA,
  GHA,NGA,CA,CHA,JA,JHA,NYA,TTA,TTHA,DDA,DDHA,NNA,TA,THA,DA,DHA,NA,NNNA,PA,PHA,BA,BHA,MA,YA,RA,RRA,
  LA,LLA,LLLA,VA,SHA,SSA,SA,HA
  93A:DEVANAGARI
  VOWEL SIGN OE,VOWEL SIGN OOE,SIGN NUKTA,SIGN AVAGRAHA
  93E:DEVANAGARI VOWEL SIGN
  AA,I,II,U,UU,VOCALIC R,VOCALIC RR,CANDRA E,SHORT E,E,AI,CANDRA O,SHORT O,O,AU
  94D:DEVANAGARI
  SIGN VIRAMA,VOWEL SIGN PRISHTHAMATRA E,VOWEL SIGN AW,OM,STRESS SIGN UDATTA,STRESS SIGN ANUDATTA,
  GRAVE ACCENT,ACUTE ACCENT
  955:DEVANAGARI VOWEL SIGN
  CANDRA LONG E,UE,UUE
  958:DEVANAGARI LETTER
  QA,KHHA,GHHA,ZA,DDDHA,RHA,FA,YYA,VOCALIC RR,VOCALIC LL
  962:DEVANAGARI VOWEL SIGN VOCALIC
  L,LL
  964:DEVANAGARI
  DANDA,DOUBLE DANDA
  966:DEVANAGARI DIGIT
  ZERO,ONE,TWO,THREE,FOUR,FIVE,SIX,SEVEN,EIGHT,NINE
  970:DEVANAGARI
  ABBREVIATION SIGN,SIGN HIGH SPACING DOT
  972:DEVANAGARI LETTER
  CANDRA A,OE,OOE,AW,UE,UUE,MARWARI DDA,ZHA,HEAVY YA,GGA,JJA,GLOTTAL STOP,DDDA,BBA
  980:BENGALI
  ANJI,SIGN CANDRABINDU,SIGN ANUSVARA,SIGN VISARGA
  985:BENGALI LETTER
  A,AA,I,II,U,UU,VOCALIC R,VOCALIC L
  98F:BENGALI LETTER
  E,AI
  993:BENGALI LETTER
  O,AU,KA,KHA,GA,GHA,NGA,CA,CHA,JA,JHA,NYA,TTA,TTHA,DDA,DDHA,NNA,TA,THA,DA,DHA,NA
  9AA:BENGALI LETTER
  PA,PHA,BA,BHA,MA,YA,RA
  9B2:
  BENGALI LETTER LA
  9B6:BENGALI LETTER
  SHA,SSA,SA,HA
  9BC:BENGALI SIGN
  NUKTA,AVAGRAHA
  9BE:BENGALI VOWEL SIGN
  AA,I,II,U,UU,VOCALIC R,VOCALIC RR
  9C7:BENGALI VOWEL SIGN
  E,AI
  9CB:BENGALI
  VOWEL SIGN O,VOWEL SIGN AU,SIGN VIRAMA,LETTER KHANDA TA
  9D7:
  BENGALI AU LENGTH MARK
  9DC:BENGALI LETTER
  RRA,RHA
  9DF:BENGALI LETTER
  YYA,VOCALIC RR,VOCALIC LL
  9E2:BENGALI VOWEL SIGN VOCALIC
  L,LL
  9E6:BENGALI DIGIT
  ZERO,ONE,TWO,THREE,FOUR,FIVE,SIX,SEVEN,EIGHT,NINE
  9F0:BENGALI LETTER RA WITH
  MIDDLE DIAGONAL,LOWER DIAGONAL
  9F2:BENGALI RUPEE
  MARK,SIGN
  9F4:BENGALI CURRENCY NUMERATOR
  ONE,TWO,THREE,FOUR,ONE LESS THAN THE DENOMINATOR
  9F9:BENGALI
  CURRENCY DENOMINATOR SIXTEEN,ISSHAR,GANDA MARK,LETTER VEDIC ANUSVARA,ABBREVIATION SIGN,SANDHI MARK
  A01:GURMUKHI SIGN
  ADAK BINDI,BINDI,VISARGA
  A05:GURMUKHI LETTER
  A,AA,I,II,U,UU
  A0F:GURMUKHI LETTER
  EE,AI
  A13:GURMUKHI LETTER
  OO,AU,KA,KHA,GA,GHA,NGA,CA,CHA,JA,JHA,NYA,TTA,TTHA,DDA,DDHA,NNA,TA,THA,DA,DHA,NA
  A2A:GURMUKHI LETTER
  PA,PHA,BA,BHA,MA,YA,RA
  A32:GURMUKHI LETTER
  LA,LLA
  A35:GURMUKHI LETTER
  VA,SHA
  A38:GURMUKHI LETTER
  SA,HA
  A3C:
  GURMUKHI SIGN NUKTA
  A3E:GURMUKHI VOWEL SIGN
  AA,I,II,U,UU
  A47:GURMUKHI VOWEL SIGN
  EE,AI
  A4B:GURMUKHI
  VOWEL SIGN OO,VOWEL SIGN AU,SIGN VIRAMA
  A51:
  GURMUKHI SIGN UDAAT
  A59:GURMUKHI LETTER
  KHHA,GHHA,ZA,RRA
  A5E:
  GURMUKHI LETTER FA
  A66:GURMUKHI DIGIT
  ZERO,ONE,TWO,THREE,FOUR,FIVE,SIX,SEVEN,EIGHT,NINE
  A70:GURMUKHI
  TIPPI,ADDAK,IRI,URA,EK ONKAR,SIGN YAKASH,ABBREVIATION SIGN
  A81:GUJARATI SIGN
  CANDRABINDU,ANUSVARA,VISARGA
  A85:GUJARATI LETTER
  A,AA,I,II,U,UU,VOCALIC R,VOCALIC L
  A8D:
  GUJARATI VOWEL CANDRA E
  A8F:GUJARATI
  LETTER E,LETTER AI,VOWEL CANDRA O
  A93:GUJARATI LETTER
  O,AU,KA,KHA,GA,GHA,NGA,CA,CHA,JA,JHA,NYA,TTA,TTHA,DDA,DDHA,NNA,TA,THA,DA,DHA,NA
  AAA:GUJARATI LETTER
  PA,PHA,BA,BHA,MA,YA,RA
  AB2:GUJARATI LETTER
  LA,LLA
  AB5:GUJARATI LETTER
  VA,SHA,SSA,SA,HA
  ABC:GUJARATI SIGN
  NUKTA,AVAGRAHA
  ABE:GUJARATI VOWEL SIGN
  AA,I,II,U,UU,VOCALIC R,VOCALIC RR,CANDRA E
  AC7:GUJARATI VOWEL SIGN
  E,AI,CANDRA O
  ACB:GUJARATI
  VOWEL SIGN O,VOWEL SIGN AU,SIGN VIRAMA
  AD0:
  GUJARATI OM
  AE0:GUJARATI LETTER VOCALIC
  RR,LL
  AE2:GUJARATI VOWEL SIGN VOCALIC
  L,LL
  AE6:GUJARATI DIGIT
  ZERO,ONE,TWO,THREE,FOUR,FIVE,SIX,SEVEN,EIGHT,NINE
  AF0:GUJARATI
  ABBREVIATION SIGN,RUPEE SIGN
  AF9:
  GUJARATI LETTER ZHA
  AFA:GUJARATI SIGN
  SUKUN,SHADDA,MADDAH,THREE-DOT NUKTA ABOVE,CIRCLE NUKTA ABOVE,TWO-CIRCLE NUKTA ABOVE
  B01:ORIYA SIGN
  CANDRABINDU,ANUSVARA,VISARGA
  B05:ORIYA LETTER
  A,AA,I,II,U,UU,VOCALIC R,VOCALIC L
  B0F:ORIYA LETTER
  E,AI
  B13:ORIYA LETTER
  O,AU,KA,KHA,GA,GHA,NGA,CA,CHA,JA,JHA,NYA,TTA,TTHA,DDA,DDHA,NNA,TA,THA,DA,DHA,NA
  B2A:ORIYA LETTER
  PA,PHA,BA,BHA,MA,YA,RA
  B32:ORIYA LETTER
  LA,LLA
  B35:ORIYA LETTER
  VA,SHA,SSA,SA,HA
  B3C:ORIYA SIGN
  NUKTA,AVAGRAHA
  B3E:ORIYA VOWEL SIGN
  AA,I,II,U,UU,VOCALIC R,VOCALIC RR
  B47:ORIYA VOWEL SIGN
  E,AI
  B4B:ORIYA
  VOWEL SIGN O,VOWEL SIGN AU,SIGN VIRAMA
  B55:ORIYA
  SIGN OVERLINE,AI LENGTH MARK,AU LENGTH MARK
  B5C:ORIYA LETTER
  RRA,RHA
  B5F:ORIYA LETTER
  YYA,VOCALIC RR,VOCALIC LL
  B62:ORIYA VOWEL SIGN VOCALIC
  L,LL
  B66:ORIYA DIGIT
  ZERO,ONE,TWO,THREE,FOUR,FIVE,SIX,SEVEN,EIGHT,NINE
  B70:ORIYA
  ISSHAR,LETTER WA
  B72:ORIYA FRACTION
  ONE QUARTER,ONE HALF,THREE QUARTERS,ONE SIXTEENTH,ONE EIGHTH,THREE SIXTEENTHS
  B82:TAMIL SIGN
  ANUSVARA,VISARGA
  B85:TAMIL LETTER
  A,AA,I,II,U,UU
  B8E:TAMIL LETTER
  E,EE,AI
  B92:TAMIL LETTER
  O,OO,AU,KA
  B99:TAMIL LETTER
  NGA,CA
  B9C:
  TAMIL LETTER JA
  B9E:TAMIL LETTER
  NYA,TTA
  BA3:TAMIL LETTER
  NNA,TA
  BA8:TAMIL LETTER
  NA,NNNA,PA
  BAE:TAMIL LETTER
  MA,YA,RA,RRA,LA,LLA,LLLA,VA,SHA,SSA,SA,HA
  BBE:TAMIL VOWEL SIGN
  AA,I,II,U,UU
  BC6:TAMIL VOWEL SIGN
  E,EE,AI
  BCA:TAMIL VOWEL SIGN
  O,OO,AU
  BCD:
  TAMIL SIGN VIRAMA
  BD0:
  TAMIL OM
  BD7:
  TAMIL AU LENGTH MARK
  BE6:TAMIL DIGIT
  ZERO,ONE,TWO,THREE,FOUR,FIVE,SIX,SEVEN,EIGHT,NINE
  BF0:TAMIL NUMBER
  TEN,ONE HUNDRED,ONE THOUSAND
  BF3:TAMIL
  DAY SIGN,MONTH SIGN,YEAR SIGN,DEBIT SIGN,CREDIT SIGN,AS ABOVE SIGN,RUPEE SIGN,NUMBER SIGN
  C00:TELUGU SIGN
  COMBINING CANDRABINDU ABOVE,CANDRABINDU,ANUSVARA,VISARGA,COMBINING ANUSVARA ABOVE
  C05:TELUGU LETTER
  A,AA,I,II,U,UU,VOCALIC R,VOCALIC L
  C0E:TELUGU LETTER
  E,EE,AI
  C12:TELUGU LETTER
  O,OO,AU,KA,KHA,GA,GHA,NGA,CA,CHA,JA,JHA,NYA,TTA,TTHA,DDA,DDHA,NNA,TA,THA,DA,DHA,NA
  C2A:TELUGU LETTER
  PA,PHA,BA,BHA,MA,YA,RA,RRA,LA,LLA,LLLA,VA,SHA,SSA,SA,HA
  C3C:TELUGU SIGN
  NUKTA,AVAGRAHA
  C3E:TELUGU VOWEL SIGN
  AA,I,II,U,UU,VOCALIC R,VOCALIC RR
  C46:TELUGU VOWEL SIGN
  E,EE,AI
  C4A:TELUGU VOWEL SIGN
  O,OO,AU
  C4D:
  TELUGU SIGN VIRAMA
  C55:TELUGU
  LENGTH MARK,AI LENGTH MARK
  C58:TELUGU LETTER
  TSA,DZA,RRRA
  C5D:
  TELUGU LETTER NAKAARA POLLU
  C60:TELUGU LETTER VOCALIC
  RR,LL
  C62:TELUGU VOWEL SIGN VOCALIC
  L,LL
  C66:TELUGU DIGIT
  ZERO,ONE,TWO,THREE,FOUR,FIVE,SIX,SEVEN,EIGHT,NINE
  C77:
  TELUGU SIGN SIDDHAM
  C78:TELUGU FRACTION DIGIT
  ZERO FOR ODD POWERS OF FOUR,ONE FOR ODD POWERS OF FOUR,TWO FOR ODD POWERS OF FOUR,
  THREE FOR ODD POWERS OF FOUR,ONE FOR EVEN POWERS OF FOUR,TWO FOR EVEN POWERS OF FOUR,
  THREE FOR EVEN POWERS OF FOUR
  C7F:
  TELUGU SIGN TUUMU
  C80:KANNADA SIGN
  SPACING CANDRABINDU,CANDRABINDU,ANUSVARA,VISARGA,SIDDHAM
  C85:KANNADA LETTER
  A,AA,I,II,U,UU,VOCALIC R,VOCALIC L
  C8E:KANNADA LETTER
  E,EE,AI
  C92:KANNADA LETTER
  O,OO,AU,KA,KHA,GA,GHA,NGA,CA,CHA,JA,JHA,NYA,TTA,TTHA,DDA,DDHA,NNA,TA,THA,DA,DHA,NA
  CAA:KANNADA LETTER
  PA,PHA,BA,BHA,MA,YA,RA,RRA,LA,LLA
  CB5:KANNADA LETTER
  VA,SHA,SSA,SA,HA
  CBC:KANNADA SIGN
  NUKTA,AVAGRAHA
  CBE:KANNADA VOWEL SIGN
  AA,I,II,U,UU,VOCALIC R,VOCALIC RR
  CC6:KANNADA VOWEL SIGN
  E,EE,AI
  CCA:KANNADA VOWEL SIGN
  O,OO,AU
  CCD:
  KANNADA SIGN VIRAMA
  CD5:KANNADA
  LENGTH MARK,AI LENGTH MARK
  CDD:KANNADA LETTER
  NAKAARA POLLU,FA
  CE0:KANNADA LETTER VOCALIC
  RR,LL
  CE2:KANNADA VOWEL SIGN VOCALIC
  L,LL
  CE6:KANNADA DIGIT
  ZERO,ONE,TWO,THREE,FOUR,FIVE,SIX,SEVEN,EIGHT,NINE
  CF1:KANNADA SIGN
  JIHVAMULIYA,UPADHMANIYA
  D00:MALAYALAM SIGN
  COMBINING ANUSVARA ABOVE,CANDRABINDU,ANUSVARA,VISARGA
  D04:MALAYALAM LETTER
  VEDIC ANUSVARA,A,AA,I,II,U,UU,VOCALIC R,VOCALIC L
  D0E:MALAYALAM LETTER
  E,EE,AI
  D12:MALAYALAM LETTER
  O,OO,AU,KA,KHA,GA,GHA,NGA,CA,CHA,JA,JHA,NYA,TTA,TTHA,DDA,DDHA,NNA,TA,THA,DA,DHA,NA,NNNA,PA,PHA,BA,
  BHA,MA,YA,RA,RRA,LA,LLA,LLLA,VA,SHA,SSA,SA,HA,TTTA
  D3B:MALAYALAM SIGN
  VERTICAL BAR VIRAMA,CIRCULAR VIRAMA,AVAGRAHA
  D3E:MALAYALAM VOWEL SIGN
  AA,I,II,U,UU,VOCALIC R,VOCALIC RR
  D46:MALAYALAM VOWEL SIGN
  E,EE,AI
  D4A:MALAYALAM VOWEL SIGN
  O,OO,AU
  D4D:MALAYALAM
  SIGN VIRAMA,LETTER DOT REPH,SIGN PARA
  D54:MALAYALAM LETTER CHILLU
  M,Y,LLL
  D57:
  MALAYALAM AU LENGTH MARK
  D58:MALAYALAM FRACTION
  ONE ONE-HUNDRED-AND-SIXTIETH,ONE FORTIETH,THREE EIGHTIETHS,ONE TWENTIETH,ONE TENTH,
  THREE TWENTIETHS,ONE FIFTH
  D5F:MALAYALAM LETTER
  ARCHAIC II,VOCALIC RR,VOCALIC LL
  D62:MALAYALAM VOWEL SIGN VOCALIC
  L,LL
  D66:MALAYALAM DIGIT
  ZERO,ONE,TWO,THREE,FOUR,FIVE,SIX,SEVEN,EIGHT,NINE
  D70:MALAYALAM NUMBER
  TEN,ONE HUNDRED,ONE THOUSAND
  D73:MALAYALAM FRACTION
  ONE QUARTER,ONE HALF,THREE QUARTERS,ONE SIXTEENTH,ONE EIGHTH,THREE SIXTEENTHS
  D79:
  MALAYALAM DATE MARK
  D7A:MALAYALAM LETTER CHILLU
  NN,N,RR,L,LL,K
  D81:SINHALA SIGN
  CANDRABINDU,ANUSVARAYA,VISARGAYA
  D85:SINHALA LETTER
  AYANNA,AAYANNA,AEYANNA,AEEYANNA,IYANNA,IIYANNA,UYANNA,UUYANNA,IRUYANNA,IRUUYANNA,ILUYANNA,
  ILUUYANNA,EYANNA,EEYANNA,AIYANNA,OYANNA,OOYANNA,AUYANNA
  D9A:SINHALA LETTER
  ALPAPRAANA KAYANNA,MAHAAPRAANA KAYANNA,ALPAPRAANA GAYANNA,MAHAAPRAANA GAYANNA,KANTAJA NAASIKYAYA,
  SANYAKA GAYANNA,ALPAPRAANA CAYANNA,MAHAAPRAANA CAYANNA,ALPAPRAANA JAYANNA,MAHAAPRAANA JAYANNA,
  TAALUJA NAASIKYAYA,TAALUJA SANYOOGA NAAKSIKYAYA,SANYAKA JAYANNA,ALPAPRAANA TTAYANNA,
  MAHAAPRAANA TTAYANNA,ALPAPRAANA DDAYANNA,MAHAAPRAANA DDAYANNA,MUURDHAJA NAYANNA,SANYAKA DDAYANNA,
  ALPAPRAANA TAYANNA,MAHAAPRAANA TAYANNA,ALPAPRAANA DAYANNA,MAHAAPRAANA DAYANNA,DANTAJA NAYANNA
  DB3:SINHALA LETTER
  SANYAKA DAYANNA,ALPAPRAANA PAYANNA,MAHAAPRAANA PAYANNA,ALPAPRAANA BAYANNA,MAHAAPRAANA BAYANNA,
  MAYANNA,AMBA BAYANNA,YAYANNA,RAYANNA
  DBD:
  SINHALA LETTER DANTAJA LAYANNA
  DC0:SINHALA LETTER
  VAYANNA,TAALUJA SAYANNA,MUURDHAJA SAYANNA,DANTAJA SAYANNA,HAYANNA,MUURDHAJA LAYANNA,FAYANNA
  DCA:
  SINHALA SIGN AL-LAKUNA
  DCF:SINHALA VOWEL SIGN
  AELA-PILLA,KETTI AEDA-PILLA,DIGA AEDA-PILLA,KETTI IS-PILLA,DIGA IS-PILLA,KETTI PAA-PILLA
  DD6:
  SINHALA VOWEL SIGN DIGA PAA-PILLA
  DD8:SINHALA VOWEL SIGN
  GAETTA-PILLA,KOMBUVA,DIGA KOMBUVA,KOMBU DEKA,KOMBUVA HAA AELA-PILLA,KOMBUVA HAA DIGA AELA-PILLA,
  KOMBUVA HAA GAYANUKITTA,GAYANUKITTA
  DE6:SINHALA LITH DIGIT
  ZERO,ONE,TWO,THREE,FOUR,FIVE,SIX,SEVEN,EIGHT,NINE
  DF2:SINHALA VOWEL SIGN DIGA
  GAETTA-PILLA,GAYANUKITTA
  DF4:
  SINHALA PUNCTUATION KUNDDALIYA
  E01:THAI CHARACTER
  KO KAI,KHO KHAI,KHO KHUAT,KHO KHWAI,KHO KHON,KHO RAKHANG,NGO NGU,CHO CHAN,CHO CHING,CHO CHANG,
  SO SO,CHO CHOE,YO YING,DO CHADA,TO PATAK,THO THAN,THO NANGMONTHO,THO PHUTHAO,NO NEN,DO DEK,TO TAO,
  THO THUNG,THO THAHAN,THO THONG,NO NU,BO BAIMAI,PO PLA,PHO PHUNG,FO FA,PHO PHAN,FO FAN,PHO SAMPHAO,
  MO MA,YO YAK,RO RUA,RU,LO LING,LU,WO WAEN,SO SALA,SO RUSI,SO SUA,HO HIP,LO CHULA,O ANG,HO NOKHUK,
  PAIYANNOI,SARA A,MAI HAN-AKAT,SARA AA,SARA AM,SARA I,SARA II,SARA UE,SARA UEE,SARA U,SARA UU,
  PHINTHU
  E3F:
  THAI CURRENCY SYMBOL BAHT
  E40:THAI CHARACTER
  SARA E,SARA AE,SARA O,SARA AI MAIMUAN,SARA AI MAIMALAI,LAKKHANGYAO,MAIYAMOK,MAITAIKHU,MAI EK,
  MAI THO,MAI TRI,MAI CHATTAWA,THANTHAKHAT,NIKHAHIT,YAMAKKAN,FONGMAN
  E50:THAI DIGIT
  ZERO,ONE,TWO,THREE,FOUR,FIVE,SIX,SEVEN,EIGHT,NINE
  E5A:THAI CHARACTER
  ANGKHANKHU,KHOMUT
  E81:LAO LETTER
  KO,KHO SUNG
  E84:
  LAO LETTER KHO TAM
  E86:LAO LETTER
  PALI GHA,NGO,CO,PALI CHA,SO TAM
  E8C:LAO LETTER
  PALI JHA,NYO,PALI NYA,PALI TTA,PALI TTHA,PALI DDA,PALI DDHA,PALI NNA,DO,TO,THO SUNG,THO TAM,
  PALI DHA,NO,BO,PO,PHO SUNG,FO TAM,PHO TAM,FO SUNG,PALI BHA,MO,YO,LO LING
  EA5:
  LAO LETTER LO LOOT
  EA7:LAO LETTER
  WO,SANSKRIT SHA,SANSKRIT SSA,SO SUNG,HO SUNG,PALI LLA,O,HO TAM
  EAF:
  LAO ELLIPSIS
  EB0:LAO VOWEL SIGN
  A,MAI KAN,AA,AM,I,II,Y,YY,U,UU
  EBA:LAO
  SIGN PALI VIRAMA,VOWEL SIGN MAI KON
  EBC:LAO SEMIVOWEL SIGN
  LO,NYO
  EC0:LAO VOWEL SIGN
  E,EI,O,AY,AI
  EC6:
  LAO KO LA
  EC8:LAO TONE MAI
  EK,THO,TI,CATAWA
  ECC:LAO
  CANCELLATION MARK,NIGGAHITA
  ED0:LAO DIGIT
  ZERO,ONE,TWO,THREE,FOUR,FIVE,SIX,SEVEN,EIGHT,NINE
  EDC:LAO HO
  NO,MO
  EDE:LAO LETTER KHMU
  GO,NYO
  F00:
  TIBETAN SYLLABLE OM
  F01:TIBETAN MARK GTER YIG MGO
  TRUNCATED A,-UM RNAM BCAD MA,-UM GTER TSHEG MA
  F04:TIBETAN MARK
  INITIAL YIG MGO MDUN MA,CLOSING YIG MGO SGAB MA,CARET YIG MGO PHUR SHAD MA,YIG MGO TSHEG SHAD MA,
  SBRUL SHAD,BSKUR YIG MGO,BKA- SHOG YIG MGO,INTERSYLLABIC TSHEG,DELIMITER TSHEG BSTAR,SHAD,
  NYIS SHAD,TSHEG SHAD,NYIS TSHEG SHAD,RIN CHEN SPUNGS SHAD,RGYA GRAM SHAD,
  CARET -DZUD RTAGS ME LONG CAN,GTER TSHEG
  F15:TIBETAN LOGOTYPE SIGN
  CHAD RTAGS,LHAG RTAGS
  F17:TIBETAN ASTROLOGICAL SIGN
  SGRA GCAN -CHAR RTAGS,-KHYUD PA,SDONG TSHUGS
  F1A:TIBETAN SIGN RDEL
  DKAR GCIG,DKAR GNYIS,DKAR GSUM,NAG GCIG,NAG GNYIS,DKAR RDEL NAG
  F20:TIBETAN DIGIT
  ZERO,ONE,TWO,THREE,FOUR,FIVE,SIX,SEVEN,EIGHT,NINE
  F2A:TIBETAN DIGIT HALF
  ONE,TWO,THREE,FOUR,FIVE,SIX,SEVEN,EIGHT,NINE,ZERO
  F34:TIBETAN MARK
  BSDUS RTAGS,NGAS BZUNG NYI ZLA,CARET -DZUD RTAGS BZHI MIG CAN,NGAS BZUNG SGOR RTAGS,CHE MGO,
  TSA -PHRU,GUG RTAGS GYON,GUG RTAGS GYAS,ANG KHANG GYON,ANG KHANG GYAS
  F3E:TIBETAN SIGN
  YAR TSHES,MAR TSHES
  F40:TIBETAN LETTER
  KA,KHA,GA,GHA,NGA,CA,CHA,JA
  F49:TIBETAN LETTER
  NYA,TTA,TTHA,DDA,DDHA,NNA,TA,THA,DA,DHA,NA,PA,PHA,BA,BHA,MA,TSA,TSHA,DZA,DZHA,WA,ZHA,ZA,-A,YA,RA,
  LA,SHA,SSA,SA,HA,A,KSSA,FIXED-FORM RA,KKA,RRA
  F71:TIBETAN VOWEL SIGN
  AA,I,II,U,UU,VOCALIC R,VOCALIC RR,VOCALIC L,VOCALIC LL,E,EE,O,OO
  F7E:TIBETAN
  SIGN RJES SU NGA RO,SIGN RNAM BCAD,VOWEL SIGN REVERSED I,VOWEL SIGN REVERSED II,
  SIGN NYI ZLA NAA DA,SIGN SNA LDAN,MARK HALANTA,MARK PALUTA
  F86:TIBETAN SIGN
  LCI RTAGS,YANG RTAGS,LCE TSA CAN,MCHU CAN,GRU CAN RGYINGS,GRU MED RGYINGS,INVERTED MCHU CAN
  F8D:TIBETAN SUBJOINED SIGN
  LCE TSA CAN,MCHU CAN,INVERTED MCHU CAN
  F90:TIBETAN SUBJOINED LETTER
  KA,KHA,GA,GHA,NGA,CA,CHA,JA
  F99:TIBETAN SUBJOINED LETTER
  NYA,TTA,TTHA,DDA,DDHA,NNA,TA,THA,DA,DHA,NA,PA,PHA,BA,BHA,MA,TSA,TSHA,DZA,DZHA,WA,ZHA,ZA,-A,YA,RA,
  LA,SHA,SSA,SA,HA,A,KSSA,FIXED-FORM WA,FIXED-FORM YA,FIXED-FORM RA
  FBE:TIBETAN KU RU
  KHA,KHA BZHI MIG CAN
  FC0:TIBETAN CANTILLATION SIGN
  HEAVY BEAT,LIGHT BEAT,CANG TE-U,SBUB -CHAL
  FC4:TIBETAN SYMBOL
  DRIL BU,RDO RJE,PADMA GDAN,RDO RJE RGYA GRAM,PHUR PA,NOR BU,NOR BU NYIS -KHYIL,NOR BU GSUM -KHYIL,
  NOR BU BZHI -KHYIL
  FCE:TIBETAN SIGN RDEL NAG
  RDEL DKAR,GSUM
  FD0:TIBETAN MARK
  BSKA- SHOG GI MGO RGYAN,MNYAM YIG GI MGO RGYAN,NYIS TSHEG,INITIAL BRDA RNYING YIG MGO MDUN MA,
  CLOSING BRDA RNYING YIG MGO SGAB MA
  FD5:
  RIGHT-FACING SVASTI SIGN,LEFT-FACING SVASTI SIGN,RIGHT-FACING SVASTI SIGN WITH DOTS,
  LEFT-FACING SVASTI SIGN WITH DOTS
  FD9:TIBETAN MARK
  LEADING MCHAN RTAGS,TRAILING MCHAN RTAGS
  1000:MYANMAR LETTER
  KA,KHA,GA,GHA,NGA,CA,CHA,JA,JHA,NYA,NNYA,TTA,TTHA,DDA,DDHA,NNA,TA,THA,DA,DHA,NA,PA,PHA,BA,BHA,MA,
  YA,RA,LA,WA,SA,HA,LLA,A,SHAN A,I,II,U,UU,E,MON E,O,AU
  102B:MYANMAR VOWEL SIGN
  TALL AA,AA,I,II,U,UU,E,AI,MON II,MON O,E ABOVE
  1036:MYANMAR SIGN
  ANUSVARA,DOT BELOW,VISARGA,VIRAMA,ASAT
  103B:MYANMAR CONSONANT SIGN MEDIAL
  YA,RA,WA,HA
  103F:
  MYANMAR LETTER GREAT SA
  1040:MYANMAR DIGIT
  ZERO,ONE,TWO,THREE,FOUR,FIVE,SIX,SEVEN,EIGHT,NINE
  104A:MYANMAR SIGN
  LITTLE SECTION,SECTION
  104C:MYANMAR SYMBOL
  LOCATIVE,COMPLETED,AFOREMENTIONED,GENITIVE
  1050:MYANMAR LETTER
  SHA,SSA
  1052:MYANMAR LETTER VOCALIC
  R,RR,L,LL
  1056:MYANMAR VOWEL SIGN VOCALIC
  R,RR,L,LL
  105A:MYANMAR LETTER MON
  NGA,JHA,BBA,BBE
  105E:MYANMAR CONSONANT SIGN MON MEDIAL
  NA,MA,LA
  1061:MYANMAR
  LETTER SGAW KAREN SHA,VOWEL SIGN SGAW KAREN EU
  1063:MYANMAR TONE MARK SGAW KAREN
  HATHI,KE PHO
  1065:MYANMAR LETTER WESTERN PWO KAREN
  THA,PWA
  1067:MYANMAR VOWEL SIGN WESTERN PWO KAREN
  EU,UE
  1069:MYANMAR SIGN WESTERN PWO KAREN
  TONE-1,TONE-2,TONE-3,TONE-4,TONE-5
  106E:MYANMAR LETTER EASTERN PWO KAREN
  NNA,YWA,GHWA
  1071:MYANMAR VOWEL SIGN
  GEBA KAREN I,KAYAH OE,KAYAH U,KAYAH EE
  1075:MYANMAR LETTER SHAN
  KA,KHA,GA,CA,ZA,NYA,DA,NA,PHA,FA,BA,THA,HA
  1082:
  MYANMAR CONSONANT SIGN SHAN MEDIAL WA
  1083:MYANMAR VOWEL SIGN SHAN
  AA,E,E ABOVE,FINAL Y
  1087:MYANMAR SIGN SHAN
  TONE-2,TONE-3,TONE-5,TONE-6,COUNCIL TONE-2,COUNCIL TONE-3,COUNCIL EMPHATIC TONE
  108E:MYANMAR
  LETTER RUMAI PALAUNG FA,SIGN RUMAI PALAUNG TONE-5
  1090:MYANMAR SHAN DIGIT
  ZERO,ONE,TWO,THREE,FOUR,FIVE,SIX,SEVEN,EIGHT,NINE
  109A:MYANMAR SIGN KHAMTI
  TONE-1,TONE-3
  109C:MYANMAR VOWEL SIGN AITON
  A,AI
  109E:MYANMAR SYMBOL SHAN
  ONE,EXCLAMATION
  10A0:GEORGIAN CAPITAL LETTER
  AN,BAN,GAN,DON,EN,VIN,ZEN,TAN,IN,KAN,LAS,MAN,NAR,ON,PAR,ZHAR,RAE,SAN,TAR,UN,PHAR,KHAR,GHAN,QAR,
  SHIN,CHIN,CAN,JIL,CIL,CHAR,XAN,JHAN,HAE,HE,HIE,WE,HAR,HOE
  10C7:
  GEORGIAN CAPITAL LETTER YN
  10CD:
  GEORGIAN CAPITAL LETTER AEN
  10D0:GEORGIAN LETTER
  AN,BAN,GAN,DON,EN,VIN,ZEN,TAN,IN,KAN,LAS,MAN,NAR,ON,PAR,ZHAR,RAE,SAN,TAR,UN,PHAR,KHAR,GHAN,QAR,
  SHIN,CHIN,CAN,JIL,CIL,CHAR,XAN,JHAN,HAE,HE,HIE,WE,HAR,HOE,FI,YN,ELIFI,TURNED GAN,AIN
  10FB:
  GEORGIAN PARAGRAPH SEPARATOR,MODIFIER LETTER GEORGIAN NAR
  10FD:GEORGIAN LETTER
  AEN,HARD SIGN,LABIAL SIGN
  1100:HANGUL CHOSEONG
  KIYEOK,SSANGKIYEOK,NIEUN,TIKEUT,SSANGTIKEUT,RIEUL,MIEUM,PIEUP,SSANGPIEUP,SIOS,SSANGSIOS,IEUNG,
  CIEUC,SSANGCIEUC,CHIEUCH,KHIEUKH,THIEUTH,PHIEUPH,HIEUH,NIEUN-KIYEOK,SSANGNIEUN,NIEUN-TIKEUT,
  NIEUN-PIEUP,TIKEUT-KIYEOK,RIEUL-NIEUN,SSANGRIEUL,RIEUL-HIEUH,KAPYEOUNRIEUL,MIEUM-PIEUP,
  KAPYEOUNMIEUM,PIEUP-KIYEOK,PIEUP-NIEUN,PIEUP-TIKEUT,PIEUP-SIOS,PIEUP-SIOS-KIYEOK,
  PIEUP-SIOS-TIKEUT,PIEUP-SIOS-PIEUP,PIEUP-SSANGSIOS,PIEUP-SIOS-CIEUC,PIEUP-CIEUC,PIEUP-CHIEUCH,
  PIEUP-THIEUTH,PIEUP-PHIEUPH,KAPYEOUNPIEUP,KAPYEOUNSSANGPIEUP,SIOS-KIYEOK,SIOS-NIEUN,SIOS-TIKEUT,
  SIOS-RIEUL,SIOS-MIEUM,SIOS-PIEUP,SIOS-PIEUP-KIYEOK,SIOS-SSANGSIOS,SIOS-IEUNG,SIOS-CIEUC,
  SIOS-CHIEUCH,SIOS-KHIEUKH,SIOS-THIEUTH,SIOS-PHIEUPH,SIOS-HIEUH,CHITUEUMSIOS,CHITUEUMSSANGSIOS,
  CEONGCHIEUMSIOS,CEONGCHIEUMSSANGSIOS,PANSIOS,IEUNG-KIYEOK,IEUNG-TIKEUT,IEUNG-MIEUM,IEUNG-PIEUP,
  IEUNG-SIOS,IEUNG-PANSIOS,SSANGIEUNG,IEUNG-CIEUC,IEUNG-CHIEUCH,IEUNG-THIEUTH,IEUNG-PHIEUPH,
  YESIEUNG,CIEUC-IEUNG,CHITUEUMCIEUC,CHITUEUMSSANGCIEUC,CEONGCHIEUMCIEUC,CEONGCHIEUMSSANGCIEUC,
  CHIEUCH-KHIEUKH,CHIEUCH-HIEUH,CHITUEUMCHIEUCH,CEONGCHIEUMCHIEUCH,PHIEUPH-PIEUP,KAPYEOUNPHIEUPH,
  SSANGHIEUH,YEORINHIEUH,KIYEOK-TIKEUT,NIEUN-SIOS,NIEUN-CIEUC,NIEUN-HIEUH,TIKEUT-RIEUL,FILLER
  1160:HANGUL JUNGSEONG
  FILLER,A,AE,YA,YAE,EO,E,YEO,YE,O,WA,WAE,OE,YO,U,WEO,WE,WI,YU,EU,YI,I,A-O,A-U,YA-O,YA-YO,EO-O,EO-U,
  EO-EU,YEO-O,YEO-U,O-EO,O-E,O-YE,O-O,O-U,YO-YA,YO-YAE,YO-YEO,YO-O,YO-I,U-A,U-AE,U-EO-EU,U-YE,U-U,
  YU-A,YU-EO,YU-E,YU-YEO,YU-YE,YU-U,YU-I,EU-U,EU-EU,YI-U,I-A,I-YA,I-O,I-U,I-EU,I-ARAEA,ARAEA,
  ARAEA-EO,ARAEA-U,ARAEA-I,SSANGARAEA,A-EU,YA-U,YEO-YA,O-YA,O-YAE
  11A8:HANGUL JONGSEONG
  KIYEOK,SSANGKIYEOK,KIYEOK-SIOS,NIEUN,NIEUN-CIEUC,NIEUN-HIEUH,TIKEUT,RIEUL,RIEUL-KIYEOK,
  RIEUL-MIEUM,RIEUL-PIEUP,RIEUL-SIOS,RIEUL-THIEUTH,RIEUL-PHIEUPH,RIEUL-HIEUH,MIEUM,PIEUP,PIEUP-SIOS,
  SIOS,SSANGSIOS,IEUNG,CIEUC,CHIEUCH,KHIEUKH,THIEUTH,PHIEUPH,HIEUH,KIYEOK-RIEUL,KIYEOK-SIOS-KIYEOK,
  NIEUN-KIYEOK,NIEUN-TIKEUT,NIEUN-SIOS,NIEUN-PANSIOS,NIEUN-THIEUTH,TIKEUT-KIYEOK,TIKEUT-RIEUL,
  RIEUL-KIYEOK-SIOS,RIEUL-NIEUN,RIEUL-TIKEUT,RIEUL-TIKEUT-HIEUH,SSANGRIEUL,RIEUL-MIEUM-KIYEOK,
  RIEUL-MIEUM-SIOS,RIEUL-PIEUP-SIOS,RIEUL-PIEUP-HIEUH,RIEUL-KAPYEOUNPIEUP,RIEUL-SSANGSIOS,
  RIEUL-PANSIOS,RIEUL-KHIEUKH,RIEUL-YEORINHIEUH,MIEUM-KIYEOK,MIEUM-RIEUL,MIEUM-PIEUP,MIEUM-SIOS,
  MIEUM-SSANGSIOS,MIEUM-PANSIOS,MIEUM-CHIEUCH,MIEUM-HIEUH,KAPYEOUNMIEUM,PIEUP-RIEUL,PIEUP-PHIEUPH,
  PIEUP-HIEUH,KAPYEOUNPIEUP,SIOS-KIYEOK,SIOS-TIKEUT,SIOS-RIEUL,SIOS-PIEUP,PANSIOS,IEUNG-KIYEOK,
  IEUNG-SSANGKIYEOK,SSANGIEUNG,IEUNG-KHIEUKH,YESIEUNG,YESIEUNG-SIOS,YESIEUNG-PANSIOS,PHIEUPH-PIEUP,
  KAPYEOUNPHIEUPH,HIEUH-NIEUN,HIEUH-RIEUL,HIEUH-MIEUM,HIEUH-PIEUP,YEORINHIEUH,KIYEOK-NIEUN,
  KIYEOK-PIEUP,KIYEOK-CHIEUCH,KIYEOK-KHIEUKH,KIYEOK-HIEUH,SSANGNIEUN
  1200:ETHIOPIC SYLLABLE
  HA,HU,HI,HAA,HEE,HE,HO,HOA,LA,LU,LI,LAA,LEE,LE,LO,LWA,HHA,HHU,HHI,HHAA,HHEE,HHE,HHO,HHWA,MA,MU,MI,
  MAA,MEE,ME,MO,MWA,SZA,SZU,SZI,SZAA,SZEE,SZE,SZO,SZWA,RA,RU,RI,RAA,REE,RE,RO,RWA,SA,SU,SI,SAA,SEE,
  SE,SO,SWA,SHA,SHU,SHI,SHAA,SHEE,SHE,SHO,SHWA,QA,QU,QI,QAA,QEE,QE,QO,QOA,QWA
  124A:ETHIOPIC SYLLABLE
  QWI,QWAA,QWEE,QWE
  1250:ETHIOPIC SYLLABLE
  QHA,QHU,QHI,QHAA,QHEE,QHE,QHO
  1258:
  ETHIOPIC SYLLABLE QHWA
  125A:ETHIOPIC SYLLABLE
  QHWI,QHWAA,QHWEE,QHWE
  1260:ETHIOPIC SYLLABLE
  BA,BU,BI,BAA,BEE,BE,BO,BWA,VA,VU,VI,VAA,VEE,VE,VO,VWA,TA,TU,TI,TAA,TEE,TE,TO,TWA,CA,CU,CI,CAA,CEE,
  CE,CO,CWA,XA,XU,XI,XAA,XEE,XE,XO,XOA,XWA
  128A:ETHIOPIC SYLLABLE
  XWI,XWAA,XWEE,XWE
  1290:ETHIOPIC SYLLABLE
  NA,NU,NI,NAA,NEE,NE,NO,NWA,NYA,NYU,NYI,NYAA,NYEE,NYE,NYO,NYWA
  12A0:ETHIOPIC SYLLABLE GLOTTAL
  A,U,I,AA,EE,E,O,WA
  12A8:ETHIOPIC SYLLABLE
  KA,KU,KI,KAA,KEE,KE,KO,KOA,KWA
  12B2:ETHIOPIC SYLLABLE
  KWI,KWAA,KWEE,KWE
  12B8:ETHIOPIC SYLLABLE
  KXA,KXU,KXI,KXAA,KXEE,KXE,KXO
  12C0:
  ETHIOPIC SYLLABLE KXWA
  12C2:ETHIOPIC SYLLABLE
  KXWI,KXWAA,KXWEE,KXWE
  12C8:ETHIOPIC SYLLABLE
  WA,WU,WI,WAA,WEE,WE,WO,WOA
  12D0:ETHIOPIC SYLLABLE PHARYNGEAL
  A,U,I,AA,EE,E,O
  12D8:ETHIOPIC SYLLABLE
  ZA,ZU,ZI,ZAA,ZEE,ZE,ZO,ZWA,ZHA,ZHU,ZHI,ZHAA,ZHEE,ZHE,ZHO,ZHWA,YA,YU,YI,YAA,YEE,YE,YO,YOA,DA,DU,DI,
  DAA,DEE,DE,DO,DWA,DDA,DDU,DDI,DDAA,DDEE,DDE,DDO,DDWA,JA,JU,JI,JAA,JEE,JE,JO,JWA,GA,GU,GI,GAA,GEE,
  GE,GO,GOA,GWA
  1312:ETHIOPIC SYLLABLE
  GWI,GWAA,GWEE,GWE
  1318:ETHIOPIC SYLLABLE
  GGA,GGU,GGI,GGAA,GGEE,GGE,GGO,GGWAA,THA,THU,THI,THAA,THEE,THE,THO,THWA,CHA,CHU,CHI,CHAA,CHEE,CHE,
  CHO,CHWA,PHA,PHU,PHI,PHAA,PHEE,PHE,PHO,PHWA,TSA,TSU,TSI,TSAA,TSEE,TSE,TSO,TSWA,TZA,TZU,TZI,TZAA,
  TZEE,TZE,TZO,TZOA,FA,FU,FI,FAA,FEE,FE,FO,FWA,PA,PU,PI,PAA,PEE,PE,PO,PWA,RYA,MYA,FYA
  135D:ETHIOPIC COMBINING
  GEMINATION AND VOWEL LENGTH MARK,VOWEL LENGTH MARK,GEMINATION MARK
  1360:ETHIOPIC
  SECTION MARK,WORDSPACE,FULL STOP,COMMA,SEMICOLON,COLON,PREFACE COLON,QUESTION MARK,
  PARAGRAPH SEPARATOR
  1369:ETHIOPIC DIGIT
  ONE,TWO,THREE,FOUR,FIVE,SIX,SEVEN,EIGHT,NINE
  1372:ETHIOPIC NUMBER
  TEN,TWENTY,THIRTY,FORTY,FIFTY,SIXTY,SEVENTY,EIGHTY,NINETY,HUNDRED,TEN THOUSAND
  1380:ETHIOPIC SYLLABLE
  SEBATBEIT MWA,MWI,MWEE,MWE,SEBATBEIT BWA,BWI,BWEE,BWE,SEBATBEIT FWA,FWI,FWEE,FWE,SEBATBEIT PWA,
  PWI,PWEE,PWE
  1390:ETHIOPIC TONAL MARK
  YIZET,DERET,RIKRIK,SHORT RIKRIK,DIFAT,KENAT,CHIRET,HIDET,DERET-HIDET,KURT
  13A0:CHEROKEE LETTER
  A,E,I,O,U,V,GA,KA,GE,GI,GO,GU,GV,HA,HE,HI,HO,HU,HV,LA,LE,LI,LO,LU,LV,MA,ME,MI,MO,MU,NA,HNA,NAH,NE,
  NI,NO,NU,NV,QUA,QUE,QUI,QUO,QUU,QUV,SA,S,SE,SI,SO,SU,SV,DA,TA,DE,TE,DI,TI,DO,DU,DV,DLA,TLA,TLE,
  TLI,TLO,TLU,TLV,TSA,TSE,TSI,TSO,TSU,TSV,WA,WE,WI,WO,WU,WV,YA,YE,YI,YO,YU,YV,MV
  13F8:CHEROKEE SMALL LETTER
  YE,YI,YO,YU,YV,MV"

end TypedContract.Text.CharacterName
