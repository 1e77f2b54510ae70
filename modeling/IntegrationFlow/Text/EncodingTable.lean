/-!
# Tables of encodings

The encodings that give each character one byte, and the further names that encodings go by. A table lists the code points of
all bytes, or of those from 128 on where the others are ASCII: four hexadecimal digits for each, and `FFFF` for a byte that
stands for nothing.
-/

namespace IntegrationFlow.Text

/-- The names that encodings go by besides their own. -/
def encodingAliases : List (String × String) := [
  ("646", "ascii"), ("ansi_x3.4_1968", "ascii"), ("ansi_x3.4_1986", "ascii"), ("ansi_x3_4_1968", "ascii"),
  ("cp367", "ascii"), ("csascii", "ascii"), ("ibm367", "ascii"), ("iso646_us", "ascii"),
  ("iso_646.irv_1991", "ascii"), ("iso_ir_6", "ascii"), ("us", "ascii"), ("us_ascii", "ascii"), ("037", "cp037"),
  ("csibm037", "cp037"), ("ebcdic_cp_ca", "cp037"), ("ebcdic_cp_nl", "cp037"), ("ebcdic_cp_us", "cp037"),
  ("ebcdic_cp_wt", "cp037"), ("ibm037", "cp037"), ("ibm039", "cp037"), ("1026", "cp1026"), ("csibm1026", "cp1026"),
  ("ibm1026", "cp1026"), ("1125", "cp1125"), ("cp866u", "cp1125"), ("ibm1125", "cp1125"), ("ruscii", "cp1125"),
  ("1140", "cp1140"), ("ibm1140", "cp1140"), ("1250", "cp1250"), ("windows_1250", "cp1250"), ("1251", "cp1251"),
  ("windows_1251", "cp1251"), ("1252", "cp1252"), ("windows_1252", "cp1252"), ("1253", "cp1253"),
  ("windows_1253", "cp1253"), ("1254", "cp1254"), ("windows_1254", "cp1254"), ("1255", "cp1255"),
  ("windows_1255", "cp1255"), ("1256", "cp1256"), ("windows_1256", "cp1256"), ("1257", "cp1257"),
  ("windows_1257", "cp1257"), ("1258", "cp1258"), ("windows_1258", "cp1258"), ("273", "cp273"),
  ("csibm273", "cp273"), ("ibm273", "cp273"), ("424", "cp424"), ("csibm424", "cp424"), ("ebcdic_cp_he", "cp424"),
  ("ibm424", "cp424"), ("437", "cp437"), ("cspc8codepage437", "cp437"), ("ibm437", "cp437"), ("500", "cp500"),
  ("csibm500", "cp500"), ("ebcdic_cp_be", "cp500"), ("ebcdic_cp_ch", "cp500"), ("ibm500", "cp500"), ("775", "cp775"),
  ("cspc775baltic", "cp775"), ("ibm775", "cp775"), ("850", "cp850"), ("cspc850multilingual", "cp850"),
  ("ibm850", "cp850"), ("852", "cp852"), ("cspcp852", "cp852"), ("ibm852", "cp852"), ("855", "cp855"),
  ("csibm855", "cp855"), ("ibm855", "cp855"), ("857", "cp857"), ("csibm857", "cp857"), ("ibm857", "cp857"),
  ("858", "cp858"), ("csibm858", "cp858"), ("ibm858", "cp858"), ("860", "cp860"), ("csibm860", "cp860"),
  ("ibm860", "cp860"), ("861", "cp861"), ("cp_is", "cp861"), ("csibm861", "cp861"), ("ibm861", "cp861"),
  ("862", "cp862"), ("cspc862latinhebrew", "cp862"), ("ibm862", "cp862"), ("863", "cp863"), ("csibm863", "cp863"),
  ("ibm863", "cp863"), ("864", "cp864"), ("csibm864", "cp864"), ("ibm864", "cp864"), ("865", "cp865"),
  ("csibm865", "cp865"), ("ibm865", "cp865"), ("866", "cp866"), ("csibm866", "cp866"), ("ibm866", "cp866"),
  ("869", "cp869"), ("cp_gr", "cp869"), ("csibm869", "cp869"), ("ibm869", "cp869"), ("cp1051", "hp_roman8"),
  ("csHPRoman8", "hp_roman8"), ("ibm1051", "hp_roman8"), ("r8", "hp_roman8"), ("roman8", "hp_roman8"),
  ("csisolatin6", "iso8859_10"), ("iso_8859_10", "iso8859_10"), ("iso_8859_10_1992", "iso8859_10"),
  ("iso_ir_157", "iso8859_10"), ("l6", "iso8859_10"), ("latin6", "iso8859_10"), ("iso_8859_11", "iso8859_11"),
  ("iso_8859_11_2001", "iso8859_11"), ("thai", "iso8859_11"), ("iso_8859_13", "iso8859_13"), ("l7", "iso8859_13"),
  ("latin7", "iso8859_13"), ("iso_8859_14", "iso8859_14"), ("iso_8859_14_1998", "iso8859_14"),
  ("iso_celtic", "iso8859_14"), ("iso_ir_199", "iso8859_14"), ("l8", "iso8859_14"), ("latin8", "iso8859_14"),
  ("iso_8859_15", "iso8859_15"), ("l9", "iso8859_15"), ("latin9", "iso8859_15"), ("iso_8859_16", "iso8859_16"),
  ("iso_8859_16_2001", "iso8859_16"), ("iso_ir_226", "iso8859_16"), ("l10", "iso8859_16"), ("latin10", "iso8859_16"),
  ("csisolatin2", "iso8859_2"), ("iso_8859_2", "iso8859_2"), ("iso_8859_2_1987", "iso8859_2"),
  ("iso_ir_101", "iso8859_2"), ("l2", "iso8859_2"), ("latin2", "iso8859_2"), ("csisolatin3", "iso8859_3"),
  ("iso_8859_3", "iso8859_3"), ("iso_8859_3_1988", "iso8859_3"), ("iso_ir_109", "iso8859_3"), ("l3", "iso8859_3"),
  ("latin3", "iso8859_3"), ("csisolatin4", "iso8859_4"), ("iso_8859_4", "iso8859_4"),
  ("iso_8859_4_1988", "iso8859_4"), ("iso_ir_110", "iso8859_4"), ("l4", "iso8859_4"), ("latin4", "iso8859_4"),
  ("csisolatincyrillic", "iso8859_5"), ("cyrillic", "iso8859_5"), ("iso_8859_5", "iso8859_5"),
  ("iso_8859_5_1988", "iso8859_5"), ("iso_ir_144", "iso8859_5"), ("arabic", "iso8859_6"), ("asmo_708", "iso8859_6"),
  ("csisolatinarabic", "iso8859_6"), ("ecma_114", "iso8859_6"), ("iso_8859_6", "iso8859_6"),
  ("iso_8859_6_1987", "iso8859_6"), ("iso_ir_127", "iso8859_6"), ("csisolatingreek", "iso8859_7"),
  ("ecma_118", "iso8859_7"), ("elot_928", "iso8859_7"), ("greek", "iso8859_7"), ("greek8", "iso8859_7"),
  ("iso_8859_7", "iso8859_7"), ("iso_8859_7_1987", "iso8859_7"), ("iso_ir_126", "iso8859_7"),
  ("csisolatinhebrew", "iso8859_8"), ("hebrew", "iso8859_8"), ("iso_8859_8", "iso8859_8"),
  ("iso_8859_8_1988", "iso8859_8"), ("iso_ir_138", "iso8859_8"), ("csisolatin5", "iso8859_9"),
  ("iso_8859_9", "iso8859_9"), ("iso_8859_9_1989", "iso8859_9"), ("iso_ir_148", "iso8859_9"), ("l5", "iso8859_9"),
  ("latin5", "iso8859_9"), ("cskoi8r", "koi8_r"), ("kz_1048", "kz1048"), ("rk1048", "kz1048"),
  ("strk1048_2002", "kz1048"), ("8859", "latin_1"), ("cp819", "latin_1"), ("csisolatin1", "latin_1"),
  ("ibm819", "latin_1"), ("iso8859", "latin_1"), ("iso8859_1", "latin_1"), ("iso_8859_1", "latin_1"),
  ("iso_8859_1_1987", "latin_1"), ("iso_ir_100", "latin_1"), ("l1", "latin_1"), ("latin", "latin_1"),
  ("latin1", "latin_1"), ("maccyrillic", "mac_cyrillic"), ("macgreek", "mac_greek"), ("maciceland", "mac_iceland"),
  ("mac_centeuro", "mac_latin2"), ("maccentraleurope", "mac_latin2"), ("maclatin2", "mac_latin2"),
  ("macintosh", "mac_roman"), ("macroman", "mac_roman"), ("macturkish", "mac_turkish"), ("cp154", "ptcp154"),
  ("csptcp154", "ptcp154"), ("cyrillic_asian", "ptcp154"), ("pt154", "ptcp154"), ("iso_ir_166", "tis_620"),
  ("tis620", "tis_620"), ("tis_620_0", "tis_620"), ("tis_620_2529_0", "tis_620"), ("tis_620_2529_1", "tis_620"),
  ("u16", "utf_16"), ("utf16", "utf_16"), ("unicodebigunmarked", "utf_16_be"), ("utf_16be", "utf_16_be"),
  ("unicodelittleunmarked", "utf_16_le"), ("utf_16le", "utf_16_le"), ("u32", "utf_32"), ("utf32", "utf_32"),
  ("utf_32be", "utf_32_be"), ("utf_32le", "utf_32_le"), ("u7", "utf_7"), ("unicode_1_1_utf_7", "utf_7"),
  ("utf7", "utf_7"), ("cp65001", "utf_8"), ("u8", "utf_8"), ("utf", "utf_8"), ("utf8", "utf_8"),
  ("utf8_ucs2", "utf_8"), ("utf8_ucs4", "utf_8")]

/-- The encodings with one byte for each character, by their names. -/
def byteEncodings : List (String × List String) := [
  ("cp037", ["0000000100020003009C00090086007F0097008D008E000B000C000D000E000F0010001100120013009D0085000800870018",
    "00190092008F001C001D001E001F00800081008200830084000A0017001B00880089008A008B008C00050006000700900091001600930094",
    "00950096000400980099009A009B00140015009E001A002000A000E200E400E000E100E300E500E700F100A2002E003C0028002B007C0026",
    "00E900EA00EB00E800ED00EE00EF00EC00DF00210024002A0029003B00AC002D002F00C200C400C000C100C300C500C700D100A6002C0025",
    "005F003E003F00F800C900CA00CB00C800CD00CE00CF00CC0060003A002300400027003D002200D800610062006300640065006600670068",
    "006900AB00BB00F000FD00FE00B100B0006A006B006C006D006E006F00700071007200AA00BA00E600B800C600A400B5007E007300740075",
    "0076007700780079007A00A100BF00D000DD00DE00AE005E00A300A500B700A900A700B600BC00BD00BE005B005D00AF00A800B400D7007B",
    "00410042004300440045004600470048004900AD00F400F600F200F300F5007D004A004B004C004D004E004F00500051005200B900FB00FC",
    "00F900FA00FF005C00F70053005400550056005700580059005A00B200D400D600D200D300D5003000310032003300340035003600370038",
    "003900B300DB00DC00D900DA009F"]),
  ("cp1006", ["0080008100820083008400850086008700880089008A008B008C008D008E008F009000910092009300940095009600970098",
    "0099009A009B009C009D009E009F00A006F006F106F206F306F406F506F606F706F806F9060C061B00AD061FFE81FE8DFE8EFE8EFE8FFE91",
    "FB56FB58FE93FE95FE97FB66FB68FE99FE9BFE9DFE9FFB7AFB7CFEA1FEA3FEA5FEA7FEA9FB84FEABFEADFB8CFEAFFB8AFEB1FEB3FEB5FEB7",
    "FEB9FEBBFEBDFEBFFEC1FEC5FEC9FECAFECBFECCFECDFECEFECFFED0FED1FED3FED5FED7FED9FEDBFB92FB94FEDDFEDFFEE0FEE1FEE3FB9E",
    "FEE5FEE7FE85FEEDFBA6FBA8FBA9FBAAFE80FE89FE8AFE8BFEF1FEF2FEF3FBB0FBAEFE7CFE7D"]),
  ("cp1026", ["0000000100020003009C00090086007F0097008D008E000B000C000D000E000F0010001100120013009D0085000800870018",
    "00190092008F001C001D001E001F00800081008200830084000A0017001B00880089008A008B008C00050006000700900091001600930094",
    "00950096000400980099009A009B00140015009E001A002000A000E200E400E000E100E300E5007B00F100C7002E003C0028002B00210026",
    "00E900EA00EB00E800ED00EE00EF00EC00DF011E0130002A0029003B005E002D002F00C200C400C000C100C300C5005B00D1015F002C0025",
    "005F003E003F00F800C900CA00CB00C800CD00CE00CF00CC0131003A00D6015E0027003D00DC00D800610062006300640065006600670068",
    "006900AB00BB007D006000A600B100B0006A006B006C006D006E006F00700071007200AA00BA00E600B800C600A400B500F6007300740075",
    "0076007700780079007A00A100BF005D0024004000AE00A200A300A500B700A900A700B600BC00BD00BE00AC007C00AF00A800B400D700E7",
    "00410042004300440045004600470048004900AD00F4007E00F200F300F5011F004A004B004C004D004E004F00500051005200B900FB005C",
    "00F900FA00FF00FC00F70053005400550056005700580059005A00B200D4002300D200D300D5003000310032003300340035003600370038",
    "003900B300DB002200D900DA009F"]),
  ("cp1125", ["0410041104120413041404150416041704180419041A041B041C041D041E041F042004210422042304240425042604270428",
    "0429042A042B042C042D042E042F0430043104320433043404350436043704380439043A043B043C043D043E043F25912592259325022524",
    "2561256225562555256325512557255D255C255B251025142534252C251C2500253C255E255F255A25542569256625602550256C25672568",
    "256425652559255825522553256B256A2518250C25882584258C259025800440044104420443044404450446044704480449044A044B044C",
    "044D044E044F040104510490049104040454040604560407045700B7221A211600A425A000A0"]),
  ("cp1140", ["0000000100020003009C00090086007F0097008D008E000B000C000D000E000F0010001100120013009D0085000800870018",
    "00190092008F001C001D001E001F00800081008200830084000A0017001B00880089008A008B008C00050006000700900091001600930094",
    "00950096000400980099009A009B00140015009E001A002000A000E200E400E000E100E300E500E700F100A2002E003C0028002B007C0026",
    "00E900EA00EB00E800ED00EE00EF00EC00DF00210024002A0029003B00AC002D002F00C200C400C000C100C300C500C700D100A6002C0025",
    "005F003E003F00F800C900CA00CB00C800CD00CE00CF00CC0060003A002300400027003D002200D800610062006300640065006600670068",
    "006900AB00BB00F000FD00FE00B100B0006A006B006C006D006E006F00700071007200AA00BA00E600B800C620AC00B5007E007300740075",
    "0076007700780079007A00A100BF00D000DD00DE00AE005E00A300A500B700A900A700B600BC00BD00BE005B005D00AF00A800B400D7007B",
    "00410042004300440045004600470048004900AD00F400F600F200F300F5007D004A004B004C004D004E004F00500051005200B900FB00FC",
    "00F900FA00FF005C00F70053005400550056005700580059005A00B200D400D600D200D300D5003000310032003300340035003600370038",
    "003900B300DB00DC00D900DA009F"]),
  ("cp1250", ["20ACFFFF201AFFFF201E202620202021FFFF203001602039015A0164017D0179FFFF20182019201C201D202220132014FFFF",
    "21220161203A015B0165017E017A00A002C702D8014100A4010400A600A700A800A9015E00AB00AC00AD00AE017B00B000B102DB014200B4",
    "00B500B600B700B80105015F00BB013D02DD013E017C015400C100C2010200C40139010600C7010C00C9011800CB011A00CD00CE010E0110",
    "0143014700D300D4015000D600D70158016E00DA017000DC00DD016200DF015500E100E2010300E4013A010700E7010D00E9011900EB011B",
    "00ED00EE010F01110144014800F300F4015100F600F70159016F00FA017100FC00FD016302D9"]),
  ("cp1251", ["04020403201A0453201E20262020202120AC203004092039040A040C040B040F045220182019201C201D202220132014FFFF",
    "21220459203A045A045C045B045F00A0040E045E040800A4049000A600A7040100A9040400AB00AC00AD00AE040700B000B1040604560491",
    "00B500B600B704512116045400BB04580405045504570410041104120413041404150416041704180419041A041B041C041D041E041F0420",
    "042104220423042404250426042704280429042A042B042C042D042E042F0430043104320433043404350436043704380439043A043B043C",
    "043D043E043F0440044104420443044404450446044704480449044A044B044C044D044E044F"]),
  ("cp1252", ["20ACFFFF201A0192201E20262020202102C62030016020390152FFFF017DFFFFFFFF20182019201C201D20222013201402DC",
    "21220161203A0153FFFF017E017800A000A100A200A300A400A500A600A700A800A900AA00AB00AC00AD00AE00AF00B000B100B200B300B4",
    "00B500B600B700B800B900BA00BB00BC00BD00BE00BF00C000C100C200C300C400C500C600C700C800C900CA00CB00CC00CD00CE00CF00D0",
    "00D100D200D300D400D500D600D700D800D900DA00DB00DC00DD00DE00DF00E000E100E200E300E400E500E600E700E800E900EA00EB00EC",
    "00ED00EE00EF00F000F100F200F300F400F500F600F700F800F900FA00FB00FC00FD00FE00FF"]),
  ("cp1253", ["20ACFFFF201A0192201E202620202021FFFF2030FFFF2039FFFFFFFFFFFFFFFFFFFF20182019201C201D202220132014FFFF",
    "2122FFFF203AFFFFFFFFFFFFFFFF00A00385038600A300A400A500A600A700A800A9FFFF00AB00AC00AD00AE201500B000B100B200B30384",
    "00B500B600B703880389038A00BB038C00BD038E038F0390039103920393039403950396039703980399039A039B039C039D039E039F03A0",
    "03A1FFFF03A303A403A503A603A703A803A903AA03AB03AC03AD03AE03AF03B003B103B203B303B403B503B603B703B803B903BA03BB03BC",
    "03BD03BE03BF03C003C103C203C303C403C503C603C703C803C903CA03CB03CC03CD03CEFFFF"]),
  ("cp1254", ["20ACFFFF201A0192201E20262020202102C62030016020390152FFFFFFFFFFFFFFFF20182019201C201D20222013201402DC",
    "21220161203A0153FFFFFFFF017800A000A100A200A300A400A500A600A700A800A900AA00AB00AC00AD00AE00AF00B000B100B200B300B4",
    "00B500B600B700B800B900BA00BB00BC00BD00BE00BF00C000C100C200C300C400C500C600C700C800C900CA00CB00CC00CD00CE00CF011E",
    "00D100D200D300D400D500D600D700D800D900DA00DB00DC0130015E00DF00E000E100E200E300E400E500E600E700E800E900EA00EB00EC",
    "00ED00EE00EF011F00F100F200F300F400F500F600F700F800F900FA00FB00FC0131015F00FF"]),
  ("cp1255", ["20ACFFFF201A0192201E20262020202102C62030FFFF2039FFFFFFFFFFFFFFFFFFFF20182019201C201D20222013201402DC",
    "2122FFFF203AFFFFFFFFFFFFFFFF00A000A100A200A320AA00A500A600A700A800A900D700AB00AC00AD00AE00AF00B000B100B200B300B4",
    "00B500B600B700B800B900F700BB00BC00BD00BE00BF05B005B105B205B305B405B505B605B705B805B9FFFF05BB05BC05BD05BE05BF05C0",
    "05C105C205C305F005F105F205F305F4FFFFFFFFFFFFFFFFFFFFFFFFFFFF05D005D105D205D305D405D505D605D705D805D905DA05DB05DC",
    "05DD05DE05DF05E005E105E205E305E405E505E605E705E805E905EAFFFFFFFF200E200FFFFF"]),
  ("cp1256", ["20AC067E201A0192201E20262020202102C6203006792039015206860698068806AF20182019201C201D20222013201406A9",
    "21220691203A0153200C200D06BA00A0060C00A200A300A400A500A600A700A800A906BE00AB00AC00AD00AE00AF00B000B100B200B300B4",
    "00B500B600B700B800B9061B00BB00BC00BD00BE061F06C1062106220623062406250626062706280629062A062B062C062D062E062F0630",
    "06310632063306340635063600D7063706380639063A064006410642064300E0064400E2064506460647064800E700E800E900EA00EB0649",
    "064A00EE00EF064B064C064D064E00F4064F065000F7065100F9065200FB00FC200E200F06D2"]),
  ("cp1257", ["20ACFFFF201AFFFF201E202620202021FFFF2030FFFF2039FFFF00A802C700B8FFFF20182019201C201D202220132014FFFF",
    "2122FFFF203AFFFF00AF02DBFFFF00A0FFFF00A200A300A4FFFF00A600A700D800A9015600AB00AC00AD00AE00C600B000B100B200B300B4",
    "00B500B600B700F800B9015700BB00BC00BD00BE00E60104012E0100010600C400C501180112010C00C90179011601220136012A013B0160",
    "0143014500D3014C00D500D600D701720141015A016A00DC017B017D00DF0105012F0101010700E400E501190113010D00E9017A01170123",
    "0137012B013C01610144014600F3014D00F500F600F701730142015B016B00FC017C017E02D9"]),
  ("cp1258", ["20ACFFFF201A0192201E20262020202102C62030FFFF20390152FFFFFFFFFFFFFFFF20182019201C201D20222013201402DC",
    "2122FFFF203A0153FFFFFFFF017800A000A100A200A300A400A500A600A700A800A900AA00AB00AC00AD00AE00AF00B000B100B200B300B4",
    "00B500B600B700B800B900BA00BB00BC00BD00BE00BF00C000C100C2010200C400C500C600C700C800C900CA00CB030000CD00CE00CF0110",
    "00D1030900D300D401A000D600D700D800D900DA00DB00DC01AF030300DF00E000E100E2010300E400E500E600E700E800E900EA00EB0301",
    "00ED00EE00EF011100F1032300F300F401A100F600F700F800F900FA00FB00FC01B020AB00FF"]),
  ("cp273", ["0000000100020003009C00090086007F0097008D008E000B000C000D000E000F0010001100120013009D0085000800870018",
    "00190092008F001C001D001E001F00800081008200830084000A0017001B00880089008A008B008C00050006000700900091001600930094",
    "00950096000400980099009A009B00140015009E001A002000A000E2007B00E000E100E300E500E700F100C4002E003C0028002B00210026",
    "00E900EA00EB00E800ED00EE00EF00EC007E00DC0024002A0029003B005E002D002F00C2005B00C000C100C300C500C700D100F6002C0025",
    "005F003E003F00F800C900CA00CB00C800CD00CE00CF00CC0060003A002300A70027003D002200D800610062006300640065006600670068",
    "006900AB00BB00F000FD00FE00B100B0006A006B006C006D006E006F00700071007200AA00BA00E600B800C600A400B500DF007300740075",
    "0076007700780079007A00A100BF00D000DD00DE00AE00A200A300A500B700A9004000B600BC00BD00BE00AC007C203E00A800B400D700E4",
    "00410042004300440045004600470048004900AD00F400A600F200F300F500FC004A004B004C004D004E004F00500051005200B900FB007D",
    "00F900FA00FF00D600F70053005400550056005700580059005A00B200D4005C00D200D300D5003000310032003300340035003600370038",
    "003900B300DB005D00D900DA009F"]),
  ("cp424", ["0000000100020003009C00090086007F0097008D008E000B000C000D000E000F0010001100120013009D0085000800870018",
    "00190092008F001C001D001E001F00800081008200830084000A0017001B00880089008A008B008C00050006000700900091001600930094",
    "00950096000400980099009A009B00140015009E001A002005D005D105D205D305D405D505D605D705D800A2002E003C0028002B007C0026",
    "05D905DA05DB05DC05DD05DE05DF05E005E100210024002A0029003B00AC002D002F05E205E305E405E505E605E705E805E900A6002C0025",
    "005F003E003FFFFF05EAFFFFFFFF00A0FFFFFFFFFFFF20170060003A002300400027003D0022FFFF00610062006300640065006600670068",
    "006900AB00BBFFFFFFFFFFFF00B100B0006A006B006C006D006E006F007000710072FFFFFFFFFFFF00B8FFFF00A400B5007E007300740075",
    "0076007700780079007AFFFFFFFFFFFFFFFFFFFF00AE005E00A300A500B700A900A700B600BC00BD00BE005B005D00AF00A800B400D7007B",
    "00410042004300440045004600470048004900ADFFFFFFFFFFFFFFFFFFFF007D004A004B004C004D004E004F00500051005200B9FFFFFFFF",
    "FFFFFFFFFFFF005C00F70053005400550056005700580059005A00B2FFFFFFFFFFFFFFFFFFFF003000310032003300340035003600370038",
    "003900B3FFFFFFFFFFFFFFFF009F"]),
  ("cp437", ["00C700FC00E900E200E400E000E500E700EA00EB00E800EF00EE00EC00C400C500C900E600C600F400F600F200FB00F900FF",
    "00D600DC00A200A300A520A7019200E100ED00F300FA00F100D100AA00BA00BF231000AC00BD00BC00A100AB00BB25912592259325022524",
    "2561256225562555256325512557255D255C255B251025142534252C251C2500253C255E255F255A25542569256625602550256C25672568",
    "256425652559255825522553256B256A2518250C25882584258C2590258003B100DF039303C003A303C300B503C403A6039803A903B4221E",
    "03C603B52229226100B1226522642320232100F7224800B0221900B7221A207F00B225A000A0"]),
  ("cp500", ["0000000100020003009C00090086007F0097008D008E000B000C000D000E000F0010001100120013009D0085000800870018",
    "00190092008F001C001D001E001F00800081008200830084000A0017001B00880089008A008B008C00050006000700900091001600930094",
    "00950096000400980099009A009B00140015009E001A002000A000E200E400E000E100E300E500E700F1005B002E003C0028002B00210026",
    "00E900EA00EB00E800ED00EE00EF00EC00DF005D0024002A0029003B005E002D002F00C200C400C000C100C300C500C700D100A6002C0025",
    "005F003E003F00F800C900CA00CB00C800CD00CE00CF00CC0060003A002300400027003D002200D800610062006300640065006600670068",
    "006900AB00BB00F000FD00FE00B100B0006A006B006C006D006E006F00700071007200AA00BA00E600B800C600A400B5007E007300740075",
    "0076007700780079007A00A100BF00D000DD00DE00AE00A200A300A500B700A900A700B600BC00BD00BE00AC007C00AF00A800B400D7007B",
    "00410042004300440045004600470048004900AD00F400F600F200F300F5007D004A004B004C004D004E004F00500051005200B900FB00FC",
    "00F900FA00FF005C00F70053005400550056005700580059005A00B200D400D600D200D300D5003000310032003300340035003600370038",
    "003900B300DB00DC00D900DA009F"]),
  ("cp720", ["0080008100E900E2008400E0008600E700EA00EB00E800EF00EE008D008E008F00900651065200F400A4064000FB00F90621",
    "06220623062400A306250626062706280629062A062B062C062D062E062F06300631063206330634063500AB00BB25912592259325022524",
    "2561256225562555256325512557255D255C255B251025142534252C251C2500253C255E255F255A25542569256625602550256C25672568",
    "256425652559255825522553256B256A2518250C25882584258C259025800636063706380639063A064100B5064206430644064506460647",
    "06480649064A2261064B064C064D064E064F0650224800B0221900B7221A207F00B225A000A0"]),
  ("cp737", ["039103920393039403950396039703980399039A039B039C039D039E039F03A003A103A303A403A503A603A703A803A903B1",
    "03B203B303B403B503B603B703B803B903BA03BB03BC03BD03BE03BF03C003C103C303C203C403C503C603C703C825912592259325022524",
    "2561256225562555256325512557255D255C255B251025142534252C251C2500253C255E255F255A25542569256625602550256C25672568",
    "256425652559255825522553256B256A2518250C25882584258C2590258003C903AC03AD03AE03CA03AF03CC03CD03CB03CE038603880389",
    "038A038C038E038F00B12265226403AA03AB00F7224800B0221900B7221A207F00B225A000A0"]),
  ("cp775", ["010600FC00E9010100E4012300E501070142011301560157012B017900C400C500C900E600C6014D00F6012200A2015A015B",
    "00D600DC00F800A300D800D700A40100012A00F3017B017C017A201D00A600A900AE00AC00BD00BC014100AB00BB25912592259325022524",
    "0104010C01180116256325512557255D012E0160251025142534252C251C2500253C0172016A255A25542569256625602550256C017D0105",
    "010D01190117012F01610173016B017E2518250C25882584258C2590258000D300DF014C014300F500D500B5014401360137013B013C0146",
    "01120145201900AD00B1201C00BE00B600A700F7201E00B0221900B700B900B300B225A000A0"]),
  ("cp850", ["00C700FC00E900E200E400E000E500E700EA00EB00E800EF00EE00EC00C400C500C900E600C600F400F600F200FB00F900FF",
    "00D600DC00F800A300D800D7019200E100ED00F300FA00F100D100AA00BA00BF00AE00AC00BD00BC00A100AB00BB25912592259325022524",
    "00C100C200C000A9256325512557255D00A200A5251025142534252C251C2500253C00E300C3255A25542569256625602550256C00A400F0",
    "00D000CA00CB00C8013100CD00CE00CF2518250C2588258400A600CC258000D300DF00D400D200F500D500B500FE00DE00DA00DB00D900FD",
    "00DD00AF00B400AD00B1201700BE00B600A700F700B800B000A800B700B900B300B225A000A0"]),
  ("cp852", ["00C700FC00E900E200E4016F010700E7014200EB0150015100EE017900C4010600C90139013A00F400F6013D013E015A015B",
    "00D600DC01640165014100D7010D00E100ED00F300FA01040105017D017E0118011900AC017A010C015F00AB00BB25912592259325022524",
    "00C100C2011A015E256325512557255D017B017C251025142534252C251C2500253C01020103255A25542569256625602550256C00A40111",
    "0110010E00CB010F014700CD00CE011B2518250C258825840162016E258000D300DF00D401430144014801600161015400DA0155017000FD",
    "00DD016300B400AD02DD02DB02C702D800A700F700B800B000A802D901710158015925A000A0"]),
  ("cp855", ["045204020453040304510401045404040455040504560406045704070458040804590409045A040A045B040B045C040C045E",
    "040E045F040F044E042E044A042A0430041004310411044604260434041404350415044404240433041300AB00BB25912592259325022524",
    "0445042504380418256325512557255D04390419251025142534252C251C2500253C043A041A255A25542569256625602550256C00A4043B",
    "041B043C041C043D041D043E041E043F2518250C25882584041F044F2580042F044004200441042104420422044304230436041604320412",
    "044C042C211600AD044B042B0437041704480428044D042D044904290447042700A725A000A0"]),
  ("cp856", ["05D005D105D205D305D405D505D605D705D805D905DA05DB05DC05DD05DE05DF05E005E105E205E305E405E505E605E705E8",
    "05E905EAFFFF00A3FFFF00D7FFFFFFFFFFFFFFFFFFFFFFFFFFFFFFFFFFFFFFFF00AE00AC00BD00BCFFFF00AB00BB25912592259325022524",
    "FFFFFFFFFFFF00A9256325512557255D00A200A5251025142534252C251C2500253CFFFFFFFF255A25542569256625602550256C00A4FFFF",
    "FFFFFFFFFFFFFFFFFFFFFFFFFFFFFFFF2518250C2588258400A6FFFF2580FFFFFFFFFFFFFFFFFFFFFFFF00B5FFFFFFFFFFFFFFFFFFFFFFFF",
    "FFFF00AF00B400AD00B1201700BE00B600A700F700B800B000A800B700B900B300B225A000A0"]),
  ("cp857", ["00C700FC00E900E200E400E000E500E700EA00EB00E800EF00EE013100C400C500C900E600C600F400F600F200FB00F90130",
    "00D600DC00F800A300D8015E015F00E100ED00F300FA00F100D1011E011F00BF00AE00AC00BD00BC00A100AB00BB25912592259325022524",
    "00C100C200C000A9256325512557255D00A200A5251025142534252C251C2500253C00E300C3255A25542569256625602550256C00A400BA",
    "00AA00CA00CB00C8FFFF00CD00CE00CF2518250C2588258400A600CC258000D300DF00D400D200F500D500B5FFFF00D700DA00DB00D900EC",
    "00FF00AF00B400AD00B1FFFF00BE00B600A700F700B800B000A800B700B900B300B225A000A0"]),
  ("cp858", ["00C700FC00E900E200E400E000E500E700EA00EB00E800EF00EE00EC00C400C500C900E600C600F400F600F200FB00F900FF",
    "00D600DC00F800A300D800D7019200E100ED00F300FA00F100D100AA00BA00BF00AE00AC00BD00BC00A100AB00BB25912592259325022524",
    "00C100C200C000A9256325512557255D00A200A5251025142534252C251C2500253C00E300C3255A25542569256625602550256C00A400F0",
    "00D000CA00CB00C820AC00CD00CE00CF2518250C2588258400A600CC258000D300DF00D400D200F500D500B500FE00DE00DA00DB00D900FD",
    "00DD00AF00B400AD00B1201700BE00B600A700F700B800B000A800B700B900B300B225A000A0"]),
  ("cp860", ["00C700FC00E900E200E300E000C100E700EA00CA00E800CD00D400EC00C300C200C900C000C800F400F500F200DA00F900CC",
    "00D500DC00A200A300D920A700D300E100ED00F300FA00F100D100AA00BA00BF00D200AC00BD00BC00A100AB00BB25912592259325022524",
    "2561256225562555256325512557255D255C255B251025142534252C251C2500253C255E255F255A25542569256625602550256C25672568",
    "256425652559255825522553256B256A2518250C25882584258C2590258003B100DF039303C003A303C300B503C403A6039803A903B4221E",
    "03C603B52229226100B1226522642320232100F7224800B0221900B7221A207F00B225A000A0"]),
  ("cp861", ["00C700FC00E900E200E400E000E500E700EA00EB00E800D000F000DE00C400C500C900E600C600F400F600FE00FB00DD00FD",
    "00D600DC00F800A300D820A7019200E100ED00F300FA00C100CD00D300DA00BF231000AC00BD00BC00A100AB00BB25912592259325022524",
    "2561256225562555256325512557255D255C255B251025142534252C251C2500253C255E255F255A25542569256625602550256C25672568",
    "256425652559255825522553256B256A2518250C25882584258C2590258003B100DF039303C003A303C300B503C403A6039803A903B4221E",
    "03C603B52229226100B1226522642320232100F7224800B0221900B7221A207F00B225A000A0"]),
  ("cp862", ["05D005D105D205D305D405D505D605D705D805D905DA05DB05DC05DD05DE05DF05E005E105E205E305E405E505E605E705E8",
    "05E905EA00A200A300A520A7019200E100ED00F300FA00F100D100AA00BA00BF231000AC00BD00BC00A100AB00BB25912592259325022524",
    "2561256225562555256325512557255D255C255B251025142534252C251C2500253C255E255F255A25542569256625602550256C25672568",
    "256425652559255825522553256B256A2518250C25882584258C2590258003B100DF039303C003A303C300B503C403A6039803A903B4221E",
    "03C603B52229226100B1226522642320232100F7224800B0221900B7221A207F00B225A000A0"]),
  ("cp863", ["00C700FC00E900E200C200E000B600E700EA00EB00E800EF00EE201700C000A700C900C800CA00F400CB00CF00FB00F900A4",
    "00D400DC00A200A300D900DB019200A600B400F300FA00A800B800B300AF00CE231000AC00BD00BC00BE00AB00BB25912592259325022524",
    "2561256225562555256325512557255D255C255B251025142534252C251C2500253C255E255F255A25542569256625602550256C25672568",
    "256425652559255825522553256B256A2518250C25882584258C2590258003B100DF039303C003A303C300B503C403A6039803A903B4221E",
    "03C603B52229226100B1226522642320232100F7224800B0221900B7221A207F00B225A000A0"]),
  ("cp864", ["0000000100020003000400050006000700080009000A000B000C000D000E000F001000110012001300140015001600170018",
    "0019001A001B001C001D001E001F00200021002200230024066A0026002700280029002A002B002C002D002E002F00300031003200330034",
    "00350036003700380039003A003B003C003D003E003F0040004100420043004400450046004700480049004A004B004C004D004E004F0050",
    "005100520053005400550056005700580059005A005B005C005D005E005F0060006100620063006400650066006700680069006A006B006C",
    "006D006E006F0070007100720073007400750076007700780079007A007B007C007D007E007F00B000B72219221A259225002502253C2524",
    "252C251C25342510250C2514251803B2221E03C600B100BD00BC224800AB00BBFEF7FEF8FFFFFFFFFEFBFEFCFFFF00A000ADFE8200A300A4",
    "FE84FFFFFFFFFE8EFE8FFE95FE99060CFE9DFEA1FEA50660066106620663066406650666066706680669FED1061BFEB1FEB5FEB9061F00A2",
    "FE80FE81FE83FE85FECAFE8BFE8DFE91FE93FE97FE9BFE9FFEA3FEA7FEA9FEABFEADFEAFFEB3FEB7FEBBFEBFFEC1FEC5FECBFECF00A600AC",
    "00F700D7FEC90640FED3FED7FEDBFEDFFEE3FEE7FEEBFEEDFEEFFEF3FEBDFECCFECEFECDFEE1FE7D0651FEE5FEE9FEECFEF0FEF2FED0FED5",
    "FEF5FEF6FEDDFED9FEF125A0FFFF"]),
  ("cp865", ["00C700FC00E900E200E400E000E500E700EA00EB00E800EF00EE00EC00C400C500C900E600C600F400F600F200FB00F900FF",
    "00D600DC00F800A300D820A7019200E100ED00F300FA00F100D100AA00BA00BF231000AC00BD00BC00A100AB00A425912592259325022524",
    "2561256225562555256325512557255D255C255B251025142534252C251C2500253C255E255F255A25542569256625602550256C25672568",
    "256425652559255825522553256B256A2518250C25882584258C2590258003B100DF039303C003A303C300B503C403A6039803A903B4221E",
    "03C603B52229226100B1226522642320232100F7224800B0221900B7221A207F00B225A000A0"]),
  ("cp866", ["0410041104120413041404150416041704180419041A041B041C041D041E041F042004210422042304240425042604270428",
    "0429042A042B042C042D042E042F0430043104320433043404350436043704380439043A043B043C043D043E043F25912592259325022524",
    "2561256225562555256325512557255D255C255B251025142534252C251C2500253C255E255F255A25542569256625602550256C25672568",
    "256425652559255825522553256B256A2518250C25882584258C259025800440044104420443044404450446044704480449044A044B044C",
    "044D044E044F040104510404045404070457040E045E00B0221900B7221A211600A425A000A0"]),
  ("cp869", ["FFFFFFFFFFFFFFFFFFFFFFFF0386FFFF00B700AC00A620182019038820150389038A03AA038CFFFFFFFF038E03AB00A9038F",
    "00B200B303AC00A303AD03AE03AF03CA039003CC03CD039103920393039403950396039700BD0398039900AB00BB25912592259325022524",
    "039A039B039C039D256325512557255D039E039F251025142534252C251C2500253C03A003A1255A25542569256625602550256C03A303A4",
    "03A503A603A703A803A903B103B203B32518250C2588258403B403B5258003B603B703B803B903BA03BB03BC03BD03BE03BF03C003C103C3",
    "03C203C4038400AD00B103C503C603C700A703C8038500B000A803C903CB03B003CE25A000A0"]),
  ("cp874", ["20ACFFFFFFFFFFFFFFFF2026FFFFFFFFFFFFFFFFFFFFFFFFFFFFFFFFFFFFFFFFFFFF20182019201C201D202220132014FFFF",
    "FFFFFFFFFFFFFFFFFFFFFFFFFFFF00A00E010E020E030E040E050E060E070E080E090E0A0E0B0E0C0E0D0E0E0E0F0E100E110E120E130E14",
    "0E150E160E170E180E190E1A0E1B0E1C0E1D0E1E0E1F0E200E210E220E230E240E250E260E270E280E290E2A0E2B0E2C0E2D0E2E0E2F0E30",
    "0E310E320E330E340E350E360E370E380E390E3AFFFFFFFFFFFFFFFF0E3F0E400E410E420E430E440E450E460E470E480E490E4A0E4B0E4C",
    "0E4D0E4E0E4F0E500E510E520E530E540E550E560E570E580E590E5A0E5BFFFFFFFFFFFFFFFF"]),
  ("cp875", ["0000000100020003009C00090086007F0097008D008E000B000C000D000E000F0010001100120013009D0085000800870018",
    "00190092008F001C001D001E001F00800081008200830084000A0017001B00880089008A008B008C00050006000700900091001600930094",
    "00950096000400980099009A009B00140015009E001A0020039103920393039403950396039703980399005B002E003C0028002B00210026",
    "039A039B039C039D039E039F03A003A103A3005D0024002A0029003B005E002D002F03A403A503A603A703A803A903AA03AB007C002C0025",
    "005F003E003F00A803860388038900A0038A038C038E038F0060003A002300400027003D0022038500610062006300640065006600670068",
    "006903B103B203B303B403B503B600B0006A006B006C006D006E006F00700071007203B703B803B903BA03BB03BC00B4007E007300740075",
    "0076007700780079007A03BD03BE03BF03C003C103C300A303AC03AD03AE03CA03AF03CC03CD03CB03CE03C203C403C503C603C703C8007B",
    "00410042004300440045004600470048004900AD03C9039003B020182015007D004A004B004C004D004E004F00500051005200B100BD001A",
    "0387201900A6005C001A0053005400550056005700580059005A00B200A7001A001A00AB00AC003000310032003300340035003600370038",
    "003900B300A9001A001A00BB009F"]),
  ("hp_roman8", ["0080008100820083008400850086008700880089008A008B008C008D008E008F00900091009200930094009500960097",
    "00980099009A009B009C009D009E009F00A000C000C200C800CA00CB00CE00CF00B402CB02C600A802DC00D900DB20A400AF00DD00FD00B0",
    "00C700E700D100F100A100BF00A400A300A500A7019200A200E200EA00F400FB00E100E900F300FA00E000E800F200F900E400EB00F600FC",
    "00C500EE00D800C600E500ED00F800E600C400EC00D600DC00C900EF00DF00D400C100C300E300D000F000CD00CC00D300D200D500F50160",
    "016100DA017800FF00DE00FE00B700B500B600BE201400BC00BD00AA00BA00AB25A000BB00B1FFFF"]),
  ("iso8859_10", ["0080008100820083008400850086008700880089008A008B008C008D008E008F00900091009200930094009500960097",
    "00980099009A009B009C009D009E009F00A0010401120122012A0128013600A7013B011001600166017D00AD016A014A00B0010501130123",
    "012B0129013700B7013C011101610167017E2015016B014B010000C100C200C300C400C500C6012E010C00C9011800CB011600CD00CE00CF",
    "00D00145014C00D300D400D500D6016800D8017200DA00DB00DC00DD00DE00DF010100E100E200E300E400E500E6012F010D00E9011900EB",
    "011700ED00EE00EF00F00146014D00F300F400F500F6016900F8017300FA00FB00FC00FD00FE0138"]),
  ("iso8859_11", ["0080008100820083008400850086008700880089008A008B008C008D008E008F00900091009200930094009500960097",
    "00980099009A009B009C009D009E009F00A00E010E020E030E040E050E060E070E080E090E0A0E0B0E0C0E0D0E0E0E0F0E100E110E120E13",
    "0E140E150E160E170E180E190E1A0E1B0E1C0E1D0E1E0E1F0E200E210E220E230E240E250E260E270E280E290E2A0E2B0E2C0E2D0E2E0E2F",
    "0E300E310E320E330E340E350E360E370E380E390E3AFFFFFFFFFFFFFFFF0E3F0E400E410E420E430E440E450E460E470E480E490E4A0E4B",
    "0E4C0E4D0E4E0E4F0E500E510E520E530E540E550E560E570E580E590E5A0E5BFFFFFFFFFFFFFFFF"]),
  ("iso8859_13", ["0080008100820083008400850086008700880089008A008B008C008D008E008F00900091009200930094009500960097",
    "00980099009A009B009C009D009E009F00A0201D00A200A300A4201E00A600A700D800A9015600AB00AC00AD00AE00C600B000B100B200B3",
    "201C00B500B600B700F800B9015700BB00BC00BD00BE00E60104012E0100010600C400C501180112010C00C90179011601220136012A013B",
    "01600143014500D3014C00D500D600D701720141015A016A00DC017B017D00DF0105012F0101010700E400E501190113010D00E9017A0117",
    "01230137012B013C01610144014600F3014D00F500F600F701730142015B016B00FC017C017E2019"]),
  ("iso8859_14", ["0080008100820083008400850086008700880089008A008B008C008D008E008F00900091009200930094009500960097",
    "00980099009A009B009C009D009E009F00A01E021E0300A3010A010B1E0A00A71E8000A91E821E0B1EF200AD00AE01781E1E1E1F01200121",
    "1E401E4100B61E561E811E571E831E601EF31E841E851E6100C000C100C200C300C400C500C600C700C800C900CA00CB00CC00CD00CE00CF",
    "017400D100D200D300D400D500D61E6A00D800D900DA00DB00DC00DD017600DF00E000E100E200E300E400E500E600E700E800E900EA00EB",
    "00EC00ED00EE00EF017500F100F200F300F400F500F61E6B00F800F900FA00FB00FC00FD017700FF"]),
  ("iso8859_15", ["0080008100820083008400850086008700880089008A008B008C008D008E008F00900091009200930094009500960097",
    "00980099009A009B009C009D009E009F00A000A100A200A320AC00A5016000A7016100A900AA00AB00AC00AD00AE00AF00B000B100B200B3",
    "017D00B500B600B7017E00B900BA00BB01520153017800BF00C000C100C200C300C400C500C600C700C800C900CA00CB00CC00CD00CE00CF",
    "00D000D100D200D300D400D500D600D700D800D900DA00DB00DC00DD00DE00DF00E000E100E200E300E400E500E600E700E800E900EA00EB",
    "00EC00ED00EE00EF00F000F100F200F300F400F500F600F700F800F900FA00FB00FC00FD00FE00FF"]),
  ("iso8859_16", ["0080008100820083008400850086008700880089008A008B008C008D008E008F00900091009200930094009500960097",
    "00980099009A009B009C009D009E009F00A001040105014120AC201E016000A7016100A9021800AB017900AD017A017B00B000B1010C0142",
    "017D201D00B600B7017E010D021900BB015201530178017C00C000C100C2010200C4010600C600C700C800C900CA00CB00CC00CD00CE00CF",
    "0110014300D200D300D4015000D6015A017000D900DA00DB00DC0118021A00DF00E000E100E2010300E4010700E600E700E800E900EA00EB",
    "00EC00ED00EE00EF0111014400F200F300F4015100F6015B017100F900FA00FB00FC0119021B00FF"]),
  ("iso8859_2", ["0080008100820083008400850086008700880089008A008B008C008D008E008F00900091009200930094009500960097",
    "00980099009A009B009C009D009E009F00A0010402D8014100A4013D015A00A700A80160015E0164017900AD017D017B00B0010502DB0142",
    "00B4013E015B02C700B80161015F0165017A02DD017E017C015400C100C2010200C40139010600C7010C00C9011800CB011A00CD00CE010E",
    "01100143014700D300D4015000D600D70158016E00DA017000DC00DD016200DF015500E100E2010300E4013A010700E7010D00E9011900EB",
    "011B00ED00EE010F01110144014800F300F4015100F600F70159016F00FA017100FC00FD016302D9"]),
  ("iso8859_3", ["0080008100820083008400850086008700880089008A008B008C008D008E008F00900091009200930094009500960097",
    "00980099009A009B009C009D009E009F00A0012602D800A300A4FFFF012400A700A80130015E011E013400ADFFFF017B00B0012700B200B3",
    "00B400B5012500B700B80131015F011F013500BDFFFF017C00C000C100C2FFFF00C4010A010800C700C800C900CA00CB00CC00CD00CE00CF",
    "FFFF00D100D200D300D4012000D600D7011C00D900DA00DB00DC016C015C00DF00E000E100E2FFFF00E4010B010900E700E800E900EA00EB",
    "00EC00ED00EE00EFFFFF00F100F200F300F4012100F600F7011D00F900FA00FB00FC016D015D02D9"]),
  ("iso8859_4", ["0080008100820083008400850086008700880089008A008B008C008D008E008F00900091009200930094009500960097",
    "00980099009A009B009C009D009E009F00A001040138015600A40128013B00A700A8016001120122016600AD017D00AF00B0010502DB0157",
    "00B40129013C02C700B80161011301230167014A017E014B010000C100C200C300C400C500C6012E010C00C9011800CB011600CD00CE012A",
    "01100145014C013600D400D500D600D700D8017200DA00DB00DC0168016A00DF010100E100E200E300E400E500E6012F010D00E9011900EB",
    "011700ED00EE012B01110146014D013700F400F500F600F700F8017300FA00FB00FC0169016B02D9"]),
  ("iso8859_5", ["0080008100820083008400850086008700880089008A008B008C008D008E008F00900091009200930094009500960097",
    "00980099009A009B009C009D009E009F00A0040104020403040404050406040704080409040A040B040C00AD040E040F0410041104120413",
    "041404150416041704180419041A041B041C041D041E041F0420042104220423042404250426042704280429042A042B042C042D042E042F",
    "0430043104320433043404350436043704380439043A043B043C043D043E043F0440044104420443044404450446044704480449044A044B",
    "044C044D044E044F2116045104520453045404550456045704580459045A045B045C00A7045E045F"]),
  ("iso8859_6", ["0080008100820083008400850086008700880089008A008B008C008D008E008F00900091009200930094009500960097",
    "00980099009A009B009C009D009E009F00A0FFFFFFFFFFFF00A4FFFFFFFFFFFFFFFFFFFFFFFFFFFF060C00ADFFFFFFFFFFFFFFFFFFFFFFFF",
    "FFFFFFFFFFFFFFFFFFFFFFFFFFFF061BFFFFFFFFFFFF061FFFFF062106220623062406250626062706280629062A062B062C062D062E062F",
    "0630063106320633063406350636063706380639063AFFFFFFFFFFFFFFFFFFFF0640064106420643064406450646064706480649064A064B",
    "064C064D064E064F065006510652FFFFFFFFFFFFFFFFFFFFFFFFFFFFFFFFFFFFFFFFFFFFFFFFFFFF"]),
  ("iso8859_7", ["0080008100820083008400850086008700880089008A008B008C008D008E008F00900091009200930094009500960097",
    "00980099009A009B009C009D009E009F00A02018201900A320AC20AF00A600A700A800A9037A00AB00AC00ADFFFF201500B000B100B200B3",
    "03840385038600B703880389038A00BB038C00BD038E038F0390039103920393039403950396039703980399039A039B039C039D039E039F",
    "03A003A1FFFF03A303A403A503A603A703A803A903AA03AB03AC03AD03AE03AF03B003B103B203B303B403B503B603B703B803B903BA03BB",
    "03BC03BD03BE03BF03C003C103C203C303C403C503C603C703C803C903CA03CB03CC03CD03CEFFFF"]),
  ("iso8859_8", ["0080008100820083008400850086008700880089008A008B008C008D008E008F00900091009200930094009500960097",
    "00980099009A009B009C009D009E009F00A0FFFF00A200A300A400A500A600A700A800A900D700AB00AC00AD00AE00AF00B000B100B200B3",
    "00B400B500B600B700B800B900F700BB00BC00BD00BEFFFFFFFFFFFFFFFFFFFFFFFFFFFFFFFFFFFFFFFFFFFFFFFFFFFFFFFFFFFFFFFFFFFF",
    "FFFFFFFFFFFFFFFFFFFFFFFFFFFFFFFFFFFFFFFFFFFFFFFFFFFFFFFFFFFF201705D005D105D205D305D405D505D605D705D805D905DA05DB",
    "05DC05DD05DE05DF05E005E105E205E305E405E505E605E705E805E905EAFFFFFFFF200E200FFFFF"]),
  ("iso8859_9", ["0080008100820083008400850086008700880089008A008B008C008D008E008F00900091009200930094009500960097",
    "00980099009A009B009C009D009E009F00A000A100A200A300A400A500A600A700A800A900AA00AB00AC00AD00AE00AF00B000B100B200B3",
    "00B400B500B600B700B800B900BA00BB00BC00BD00BE00BF00C000C100C200C300C400C500C600C700C800C900CA00CB00CC00CD00CE00CF",
    "011E00D100D200D300D400D500D600D700D800D900DA00DB00DC0130015E00DF00E000E100E200E300E400E500E600E700E800E900EA00EB",
    "00EC00ED00EE00EF011F00F100F200F300F400F500F600F700F800F900FA00FB00FC0131015F00FF"]),
  ("koi8_r", ["25002502250C251025142518251C2524252C2534253C258025842588258C2590259125922593232025A02219221A22482264",
    "226500A0232100B000B200B700F725502551255204512553255425552556255725582559255A255B255C255D255E255F2560256104012562",
    "2563256425652566256725682569256A256B256C00A9044E0430043104460434043504440433044504380439043A043B043C043D043E043F",
    "044F044004410442044304360432044C044B04370448044D04490447044A042E0410041104260414041504240413042504180419041A041B",
    "041C041D041E041F042F042004210422042304160412042C042B04170428042D04290427042A"]),
  ("koi8_t", ["049B0493201A0492201E202620202021FFFF203004B3203904B204B704B6FFFF049A20182019201C201D202220132014FFFF",
    "2122FFFF203AFFFFFFFFFFFFFFFFFFFF04EF04EE045100A404E300A600A7FFFFFFFFFFFF00AB00AC00AD00AEFFFF00B000B100B20401FFFF",
    "04E200B600B7FFFF2116FFFF00BBFFFFFFFFFFFF00A9044E0430043104460434043504440433044504380439043A043B043C043D043E043F",
    "044F044004410442044304360432044C044B04370448044D04490447044A042E0410041104260414041504240413042504180419041A041B",
    "041C041D041E041F042F042004210422042304160412042C042B04170428042D04290427042A"]),
  ("koi8_u", ["25002502250C251025142518251C2524252C2534253C258025842588258C2590259125922593232025A02219221A22482264",
    "226500A0232100B000B200B700F725502551255204510454255404560457255725582559255A255B0491255D255E255F2560256104010404",
    "2563040604072566256725682569256A0490256C00A9044E0430043104460434043504440433044504380439043A043B043C043D043E043F",
    "044F044004410442044304360432044C044B04370448044D04490447044A042E0410041104260414041504240413042504180419041A041B",
    "041C041D041E041F042F042004210422042304160412042C042B04170428042D04290427042A"]),
  ("kz1048", ["04020403201A0453201E20262020202120AC203004092039040A049A04BA040F045220182019201C201D202220132014FFFF",
    "21220459203A045A049B04BB045F00A004B004B104D800A404E800A600A7040100A9049200AB00AC00AD00AE04AE00B000B10406045604E9",
    "00B500B600B704512116049300BB04D904A204A304AF0410041104120413041404150416041704180419041A041B041C041D041E041F0420",
    "042104220423042404250426042704280429042A042B042C042D042E042F0430043104320433043404350436043704380439043A043B043C",
    "043D043E043F0440044104420443044404450446044704480449044A044B044C044D044E044F"]),
  ("mac_arabic", ["00C400A000C700C900D100D600DC00E100E000E200E406BA00AB00E700E900E800EA00EB00ED202600EE00EF00F100F3",
    "00BB00F400F600F700FA00F900FB00FC00200021002200230024066A0026002700280029002A002B060C002D002E002F0660066106620663",
    "066406650666066706680669003A061B003C003D003E061F274A062106220623062406250626062706280629062A062B062C062D062E062F",
    "0630063106320633063406350636063706380639063A005B005C005D005E005F0640064106420643064406450646064706480649064A064B",
    "064C064D064E064F065006510652067E0679068606D506A406AF06880691007B007C007D069806D2"]),
  ("mac_croatian", ["00C400C500C700C900D100D600DC00E100E000E200E400E300E500E700E900E800EA00EB00ED00EC00EE00EF00F100F3",
    "00F200F400F600F500FA00F900FB00FC202000B000A200A300A7202200B600DF00AE0160212200B400A82260017D00D8221E00B122642265",
    "220600B522022211220F0161222B00AA00BA03A9017E00F800BF00A100AC221A01922248010600AB010C202600A000C000C300D501520153",
    "01102014201C201D2018201900F725CAF8FF00A9204420AC2039203A00C600BB201300B7201A201E203000C2010700C1010D00C800CD00CE",
    "00CF00CC00D300D4011100D200DA00DB00D9013102C602DC00AF03C000CB02DA00B800CA00E602C7"]),
  ("mac_cyrillic", ["0410041104120413041404150416041704180419041A041B041C041D041E041F04200421042204230424042504260427",
    "04280429042A042B042C042D042E042F202000B0049000A300A7202200B6040600AE00A9212204020452226004030453221E00B122642265",
    "045600B504910408040404540407045704090459040A045A0458040500AC221A01922248220600AB00BB202600A0040B045B040C045C0455",
    "20132014201C201D2018201900F7201E040E045E040F045F211604010451044F0430043104320433043404350436043704380439043A043B",
    "043C043D043E043F0440044104420443044404450446044704480449044A044B044C044D044E20AC"]),
  ("mac_farsi", ["00C400A000C700C900D100D600DC00E100E000E200E406BA00AB00E700E900E800EA00EB00ED202600EE00EF00F100F3",
    "00BB00F400F600F700FA00F900FB00FC00200021002200230024066A0026002700280029002A002B060C002D002E002F06F006F106F206F3",
    "06F406F506F606F706F806F9003A061B003C003D003E061F274A062106220623062406250626062706280629062A062B062C062D062E062F",
    "0630063106320633063406350636063706380639063A005B005C005D005E005F0640064106420643064406450646064706480649064A064B",
    "064C064D064E064F065006510652067E0679068606D506A406AF06880691007B007C007D069806D2"]),
  ("mac_greek", ["00C400B900B200C900B300D600DC038500E000E200E4038400A800E700E900E800EA00EB00A3212200EE00EF202200BD",
    "203000F400F600A620AC00F900FB00FC2020039303940398039B039E03A000DF00AE00A903A303AA00A7226000B000B7039100B122642265",
    "00A503920395039603970399039A039C03A603AB03A803A903AC039D00AC039F03A1224803A400AB00BB202600A003A503A7038603880153",
    "20132015201C201D2018201900F70389038A038C038E03AD03AE03AF03CC038F03CD03B103B203C803B403B503C603B303B703B903BE03BA",
    "03BB03BC03BD03BF03C003CE03C103C303C403B803C903C203C703C503B603CA03CB039003B000AD"]),
  ("mac_iceland", ["00C400C500C700C900D100D600DC00E100E000E200E400E300E500E700E900E800EA00EB00ED00EC00EE00EF00F100F3",
    "00F200F400F600F500FA00F900FB00FC00DD00B000A200A300A7202200B600DF00AE00A9212200B400A8226000C600D8221E00B122642265",
    "00A500B522022211220F03C0222B00AA00BA03A900E600F800BF00A100AC221A01922248220600AB00BB202600A000C000C300D501520153",
    "20132014201C201D2018201900F725CA00FF0178204420AC00D000F000DE00FE00FD00B7201A201E203000C200CA00C100CB00C800CD00CE",
    "00CF00CC00D300D4F8FF00D200DA00DB00D9013102C602DC00AF02D802D902DA00B802DD02DB02C7"]),
  ("mac_latin2", ["00C40100010100C9010400D600DC00E10105010C00E4010D0106010700E90179017A010E00ED010F01120113011600F3",
    "011700F400F600F500FA011A011B00FC202000B0011800A300A7202200B600DF00AE00A92122011900A822600123012E012F012A22642265",
    "012B0136220222110142013B013C013D013E0139013A01450146014300AC221A01440147220600AB00BB202600A00148015000D50151014C",
    "20132014201C201D2018201900F725CA014D0154015501582039203A0159015601570160201A201E0161015A015B00C10164016500CD017D",
    "017E016A00D300D4016B016E00DA016F017001710172017300DD00FD0137017B0141017C012202C7"]),
  ("mac_roman", ["00C400C500C700C900D100D600DC00E100E000E200E400E300E500E700E900E800EA00EB00ED00EC00EE00EF00F100F3",
    "00F200F400F600F500FA00F900FB00FC202000B000A200A300A7202200B600DF00AE00A9212200B400A8226000C600D8221E00B122642265",
    "00A500B522022211220F03C0222B00AA00BA03A900E600F800BF00A100AC221A01922248220600AB00BB202600A000C000C300D501520153",
    "20132014201C201D2018201900F725CA00FF0178204420AC2039203AFB01FB02202100B7201A201E203000C200CA00C100CB00C800CD00CE",
    "00CF00CC00D300D4F8FF00D200DA00DB00D9013102C602DC00AF02D802D902DA00B802DD02DB02C7"]),
  ("mac_romanian", ["00C400C500C700C900D100D600DC00E100E000E200E400E300E500E700E900E800EA00EB00ED00EC00EE00EF00F100F3",
    "00F200F400F600F500FA00F900FB00FC202000B000A200A300A7202200B600DF00AE00A9212200B400A8226001020218221E00B122642265",
    "00A500B522022211220F03C0222B00AA00BA03A90103021900BF00A100AC221A01922248220600AB00BB202600A000C000C300D501520153",
    "20132014201C201D2018201900F725CA00FF0178204420AC2039203A021A021B202100B7201A201E203000C200CA00C100CB00C800CD00CE",
    "00CF00CC00D300D4F8FF00D200DA00DB00D9013102C602DC00AF02D802D902DA00B802DD02DB02C7"]),
  ("mac_turkish", ["00C400C500C700C900D100D600DC00E100E000E200E400E300E500E700E900E800EA00EB00ED00EC00EE00EF00F100F3",
    "00F200F400F600F500FA00F900FB00FC202000B000A200A300A7202200B600DF00AE00A9212200B400A8226000C600D8221E00B122642265",
    "00A500B522022211220F03C0222B00AA00BA03A900E600F800BF00A100AC221A01922248220600AB00BB202600A000C000C300D501520153",
    "20132014201C201D2018201900F725CA00FF0178011E011F01300131015E015F202100B7201A201E203000C200CA00C100CB00C800CD00CE",
    "00CF00CC00D300D4F8FF00D200DA00DB00D9F8A002C602DC00AF02D802D902DA00B802DD02DB02C7"]),
  ("palmos", ["20AC0081201A0192201E20262020202102C62030016020390152266626632665266020182019201C201D20222013201402DC",
    "21220161009B0153009D009E017800A000A100A200A300A400A500A600A700A800A900AA00AB00AC00AD00AE00AF00B000B100B200B300B4",
    "00B500B600B700B800B900BA00BB00BC00BD00BE00BF00C000C100C200C300C400C500C600C700C800C900CA00CB00CC00CD00CE00CF00D0",
    "00D100D200D300D400D500D600D700D800D900DA00DB00DC00DD00DE00DF00E000E100E200E300E400E500E600E700E800E900EA00EB00EC",
    "00ED00EE00EF00F000F100F200F300F400F500F600F700F800F900FA00FB00FC00FD00FE00FF"]),
  ("ptcp154", ["0496049204EE0493201E202604B604AE04B204AF04A004E204A2049A04BA04B8049720182019201C201D20222013201404B3",
    "04B704A104E304A3049B04BB04B900A0040E045E040804E8049804B000A7040100A904D800AB00AC04EF00AE049C00B004B1040604560499",
    "04E900B600B70451211604D900BB045804AA04AB049D0410041104120413041404150416041704180419041A041B041C041D041E041F0420",
    "042104220423042404250426042704280429042A042B042C042D042E042F0430043104320433043404350436043704380439043A043B043C",
    "043D043E043F0440044104420443044404450446044704480449044A044B044C044D044E044F"]),
  ("tis_620", ["0080008100820083008400850086008700880089008A008B008C008D008E008F009000910092009300940095009600970098",
    "0099009A009B009C009D009E009FFFFF0E010E020E030E040E050E060E070E080E090E0A0E0B0E0C0E0D0E0E0E0F0E100E110E120E130E14",
    "0E150E160E170E180E190E1A0E1B0E1C0E1D0E1E0E1F0E200E210E220E230E240E250E260E270E280E290E2A0E2B0E2C0E2D0E2E0E2F0E30",
    "0E310E320E330E340E350E360E370E380E390E3AFFFFFFFFFFFFFFFF0E3F0E400E410E420E430E440E450E460E470E480E490E4A0E4B0E4C",
    "0E4D0E4E0E4F0E500E510E520E530E540E550E560E570E580E590E5A0E5BFFFFFFFFFFFFFFFF"])]

end IntegrationFlow.Text
