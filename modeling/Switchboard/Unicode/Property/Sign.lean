import Switchboard.Unicode.Property

/-! Properties of signs: digits and signs of mathematics, dashes, quotation marks, and the marks at
the end of words and sentences. -/
namespace Switchboard.Unicode

def asciiHexDigit : CharSet := .read
  "30-39 41-46 61-66"

def hexDigit : CharSet := .read
  "30-39 41-46 61-66 FF10-FF19 FF21-FF26 FF41-FF46"

def otherMath : CharSet := .read
  "5E 3D0-3D2 3D5 3F0-3F1 3F4-3F5 2016 2032-2034 2040 2061-2064 207D-207E 208D-208E 20D0-20DC
   20E1 20E5-20E6 20EB-20EF 2102 2107 210A-2113 2115 2119-211D 2124 2128-2129 212C-212D 212F-2131
   2133-2138 213C-213F 2145-2149 2195-2199 219C-219F 21A1-21A2 21A4-21A5 21A7 21A9-21AD 21B0-21B1
   21B6-21B7 21BC-21CD 21D0-21D1 21D3 21D5-21DB 21DD 21E4-21E5 2308-230B 23B4-23B5 23B7 23D0 23E2
   25A0-25A1 25AE-25B6 25BC-25C0 25C6-25C7 25CA-25CB 25CF-25D3 25E2 25E4 25E7-25EC 2605-2606 2640
   2642 2660-2663 266D-266E 27C5-27C6 27E6-27EF 2983-2998 29D8-29DB 29FC-29FD FE61 FE63 FE68 FF3C
   FF3E 1D400-1D454 1D456-1D49C 1D49E-1D49F 1D4A2 1D4A5-1D4A6 1D4A9-1D4AC 1D4AE-1D4B9 1D4BB
   1D4BD-1D4C3 1D4C5-1D505 1D507-1D50A 1D50D-1D514 1D516-1D51C 1D51E-1D539 1D53B-1D53E
   1D540-1D544 1D546 1D54A-1D550 1D552-1D6A5 1D6A8-1D6C0 1D6C2-1D6DA 1D6DC-1D6FA 1D6FC-1D714
   1D716-1D734 1D736-1D74E 1D750-1D76E 1D770-1D788 1D78A-1D7A8 1D7AA-1D7C2 1D7C4-1D7CB
   1D7CE-1D7FF 1EE00-1EE03 1EE05-1EE1F 1EE21-1EE22 1EE24 1EE27 1EE29-1EE32 1EE34-1EE37 1EE39
   1EE3B 1EE42 1EE47 1EE49 1EE4B 1EE4D-1EE4F 1EE51-1EE52 1EE54 1EE57 1EE59 1EE5B 1EE5D 1EE5F
   1EE61-1EE62 1EE64 1EE67-1EE6A 1EE6C-1EE72 1EE74-1EE77 1EE79-1EE7C 1EE7E 1EE80-1EE89
   1EE8B-1EE9B 1EEA1-1EEA3 1EEA5-1EEA9 1EEAB-1EEBB"

def math : CharSet := Category.mathSymbol.members ∪ otherMath

def dash : CharSet := Category.dashPunctuation.members ∪ .read "2053 207B 208B 2212"

def hyphen : CharSet := .read
  "2D AD 58A 1806 2010-2011 2E17 30FB FE63 FF0D FF65"

def quotationMark : CharSet := .read
  "22 27 AB BB 2018-201F 2039-203A 2E42 300C-300F 301D-301F FE41-FE44 FF02 FF07 FF62-FF63"

def sentenceTerminal : CharSet := .read
  "21 2E 3F 589 61D-61F 6D4 700-702 7F9 837 839 83D-83E 964-965 104A-104B 1362 1367-1368 166E
   1735-1736 17D4-17D5 1803 1809 1944-1945 1AA8-1AAB 1B4E-1B4F 1B5A-1B5B 1B5E-1B5F 1B7D-1B7F
   1C3B-1C3C 1C7E-1C7F 2024 203C-203D 2047-2049 2CF9-2CFB 2E2E 2E3C 2E53-2E54 3002 A4FF A60E-A60F
   A6F3 A6F7 A876-A877 A8CE-A8CF A92F A9C8-A9C9 AA5D-AA5F AAF0-AAF1 ABEB FE12 FE15-FE16 FE52
   FE56-FE57 FF01 FF0E FF1F FF61 10A56-10A57 10F55-10F59 10F86-10F89 11047-11048 110BE-110C1
   11141-11143 111C5-111C6 111CD 111DE-111DF 11238-11239 1123B-1123C 112A9 113D4-113D5
   1144B-1144C 115C2-115C3 115C9-115D7 11641-11642 1173C-1173E 11944 11946 11A42-11A43
   11A9B-11A9C 11C41-11C42 11EF7-11EF8 11F43-11F44 16A6E-16A6F 16AF5 16B37-16B38 16B44
   16D6E-16D6F 16E98 1BC9F 1DA88"

/-- Marks that end a part of a text. Those that end a sentence are among them. -/
def terminalPunctuation : CharSet :=
  sentenceTerminal ∪
    .read
      "2C 3A-3B 37E 387 5C3 60C 61B 703-70A 70C 7F8 830-835 838 83A-83C 85E E5A-E5B F08 F0D-F12
       1361 1363-1366 16EB-16ED 17D6 17DA 1802 1804-1805 1808 1B5D 1C3D-1C3F 2E41 2E4C 2E4E-2E4F
       3001 A4FE A60D A6F4-A6F6 A9C7 AADF FE50-FE51 FE54-FE55 FF0C FF1A-FF1B FF64 1039F 103D0
       10857 1091F 10AF0-10AF5 10B3A-10B3F 10B99-10B9C 11049-1104D 1123A 1144D 1145A-1145B
       115C4-115C5 11AA1-11AA2 11C43 11C71 12470-12474 16B39 16E97 1DA87 1DA89-1DA8A"

end Switchboard.Unicode
