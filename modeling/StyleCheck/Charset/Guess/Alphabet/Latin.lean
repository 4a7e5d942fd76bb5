import StyleCheck.Charset.Guess.Alphabet

/-!
# Pairs of letters: Latin alphabets

How usual the pairs of letters are in the languages that are written in Latin letters.
-/

namespace StyleCheck.Charset.Alphabet

/-! ## Western European languages

The Germanic, Romance, Celtic and Finnic
languages but Icelandic and Faroese, which have letters of their own, and Albanian. -/

/-- The letters of Western European languages, and how usual their pairs are. -/
def western : Alphabet where
  isLatin := true
  rows := [
    (' ', "0000000000000000000000000000heW7mnfiUtUVBcSB0hWcPpmgAiBl707XOF0"),
    ('a', "000000000000000000000000000eC9D8.FEpEGCQAnXe.pEfCBFB9UBDF.PBKW."),
    ('b', "000000000000000000000000000BINPDcEbAFcPbAPBD.AEbBAUVUP9S...TBA."),
    ('c', "000000000000000000000000000DJPQQEDPBXVVEBUBE.BDdUDFFAWBB...P87."),
    ('d', "000000000000000000000000000BcRDEaUFBYfMcjePE.BUQIGFa9gAS...ADV."),
    ('e', "000000000000000000000000000YMfBFRUDXFEDl9EBa.hGSBGFU8QAa...BDG."),
    ('f', "0000000000000000000000000009Eb9DUaW8UbPV7T8A.7DO8Cll7O7h...787."),
    ('g', "000000000000000000000000000BKPPQUdBBWbFEBOBD.AFWBHgb9OCc...ACA."),
    ('h', "000000000000000000000000000DDWTXdVVBQeEf9PGD.9DcUGaf8LAY...AB9."),
    ('i', "000000000000000000000000000cXWCYTDDXfWXz9FBE.hUsBARFaUAW...BLD."),
    ('j', "0000000000000000000000000007PP9FlBB8CFBi6C79.7AD8hnl.P7T...7A8."),
    ('k', "000000000000000000000000000BBFBEaaVAFGDY9FBC.9DDAhji8D9n...9DB."),
    ('l', "000000000000000000000000000DZjMIkffCdfRWadDF.CdXPfaaBOPe7.7CEF."),
    ('m', "000000000000000000000000000BMfDhkjIBTfSbBcCE.BWdDhga9aPc7..PDB."),
    ('n', "000000000000000000000000000EFUCQhVfgfjUmDWFD.EDTEdTWBcDS8.8PDD."),
    ('o', "000000000000000000000000000bHFCPFBBGUUCW9bBG.hBFBFgETGXE...ACD."),
    ('p', "0000000000000000000000000009WcEQocJPUUEf9TAC.9DbUlWU8c9X...9B9."),
    ('q', "000000000000000000000000000.CB9B8777BBBV.B8A..9A8899.979...7..."),
    ('r', "000000000000000000000000000EajEWejcWjoclDmGB.DcUXWjsDSPp8.7DDD."),
    ('s', "000000000000000000000000000EGQDUlbaDDeDOUeDC.DEWEhhnAcPk8.7PEC."),
    ('t', "000000000000000000000000000D+nRXqUCCUqPsCcEB.BbeUkeVdcCf7.7CdC."),
    ('u', "000000000000000000000000000kKTDDSBAWdWWP7eAa.eUE9FHE6E8D...9GE."),
    ('v', "0000000000000000000000000008FOADpai8VVQV8P9B.8DaUpYD7D8F...PB9."),
    ('w', "0000000000000000000000000009DH8BeAA7CHAB7B89.7DD7BdC6A7d...77.."),
    ('x', "000000000000000000000000000.DF798766FD8B.W.7..WB..8B.D.8......."),
    ('y', "000000000000000000000000000BDH.8R88ADF78.A78.B7A.7cA.D.9....98."),
    ('z', "0000000000000000000000000008IOQPDA97BRAV7E79.89l7DUB7O7S...7..."),
    ('ß', "n.SDBr9BDT7BDBEG9.DESF89.B8.....A.................9....A......."),
    ('à', "/CJDDBIWEFDDXIaGADYPHDFDDAD.C......BB7...A....88.....8........."),
    ('á', "qCKOiFQVEuBFeHmFTDecQQQBCBF..A79...B.F8..I...B.E.....D........."),
    ('â', "0DBPCB9TCC8ADVZCBEFEbAA87.8..7.7...8.8........................."),
    ('ã', "e8F77XC.E8BD778yEB888DDA98B..979...B.88..8.....7.....7........."),
    ('ä', "/FSUSlSWkhaahWkFUEtfjjaDUgDA....q7...............A8....9....BA."),
    ('å', "rFbCUCBaDDBaeFjBU7njUBBA68A.....77................87..........."),
    ('æ', "VEVCEDBEDKAWVEfBC7rlUABA.89........................7..........."),
    ('ç', "FoABVWVBBK8ACBDeA7DDCP876A7.BC8k...7ACAV.B.7..8c7e...T........."),
    ('è', "g8PcQFCQFGBFPajEFQfpMDaBF9C.B......99C...9.7..77.....7........."),
    ('é', "vleaYpQfEsPGfSeOYRjojQYEPDC.7FP8...BCa97.D8B.B.D8....D8....8..."),
    ('ê', "UCEBEDBEDEACDPZEPADjkCB987A..8.8...A.97..7.....7..............."),
    ('ë', "/ADEEFAEVEBDhVoDVAqgVDBBB8V........B.7.B......................."),
    ('ì', "pA9BA97A99.8BAD98.CBB787..7...................................."),
    ('í', "onIcbEJPFFBFVReoFGcecFHBEAO.AF.8...F9D7..D...B7D.....D........."),
    ('î', "LCABBB8BBB7ASBPBA8DDXA97.77..........8........................."),
    ('ï', "TFEEJaPCDE9BFWgDBHPPKBBF.89........77B........................."),
    ('ð', "0.............................................................."),
    ('ñ', "G/ABBF7A9G79CBEm9.DDBE87.B8..e.......B...S...7.O.....9.7......."),
    ('ò', "lEDEDDADCD9CKILBH8jWFBB9W79.8......77....7....................."),
    ('ó', "vFPFeFDFEiBERbxFQAjObEFAUAC.8E.7...87D7..D...B.a.....C........."),
    ('ô', "UCABPB8BAB79UPWBP7PDe997..7........7.8........................."),
    ('õ', "FBWCXhBdltEFhFnFd7kCXoDA.7I.....A..7.............D7....9....DA."),
    ('ö', "gTaSgFYYSEUagafDg9vjjCEC8cBb....A8...............7e....8....87."),
    ('ø', "i.VFtZDbFBfVb.jEE8+bUCDC7lB......77................9..........."),
    ('ù', "l989886878.7A9B87.AAA67...6...................................."),
    ('ú', "aFcTcCDDCi9DWWhGE8bfTEGA8AA.8F.7...87D...D...9.D.....C........."),
    ('û', "FB9AAA799A.8QAD987UBa887.............8........................."),
    ('ü', "FGkneYSSiPDhkXhEF9qhDDEE89DY....9........P.......98....Y....B9."),
    ('ý', "F...........7.8...777.........................................."),
    ('þ', "0.............................................................."),
    ('ÿ', "P...........7.7...777.........................................."),
    ('œ', "FB9BAB7A9P79BBDA97CCBh87..7..........8........................."),
    ('š', "ARB8DZ8CBTADEDDKB.EEFJH7.9......C....7...........C9....B....87."),
    ('ž', "GPD7BH7A9Z8FCBDDD.DCCF9..8......A................B7....A....7.."),
    ('ˆ', "0..............................................................")]

/-! ## Central European languages

Polish, Czech, Slovak, Hungarian, Romanian,
Croatian and Slovene. -/

/-- The letters of Central European languages, and how usual their pairs are. -/
def centralEuropean : Alphabet where
  isLatin := true
  rows := [
    (' ', "0000000000000000000000000000a0C9j0RjQBbfV00FWoZaG0Dbg0UXDZpglVCDTZmk0"),
    ('a', "000000000000000000000000000.8EAFG.DBJ9.GE..FSdHgFDCDnkHFDC.bbfhBCYbY."),
    ('b', "000000000000000000000000000.bDB.R.UBSAVEE.bEBS8ASQ.RSF9F7VDANBADQ8DD."),
    ('c', "000000000000000000000000000.8ZB.R.QDSFFMD.lGBG78GE.9SG9E.BEOEB9HB9EB."),
    ('d', "000000000000000000000000000.TOC.Y.aBTR.EERYGCR8AGcRSbGEa7PEBRBAQDWVX."),
    ('e', "000000000000000000000000000.SCD7D.EBG8FBCF.DbeUbDBAbXmaDB.ihdUR9BDbX."),
    ('f', "000000000000000000000000000.RQ8.Q.G9D7WQGEOB8D.7BB.7BB7a.898E879Q.99."),
    ('g', "000000000000000000000000000.XPB.W.FBY9IEF.PFBM7ASE.9XF9Q.BDAMB9CD9DB."),
    ('h', "000000000000000000000000000.WCB.c.GBXAGVF.FDAK79EE.9SE9ERQC9IAPCQ8CB."),
    ('i', "000000000000000000000000000.SD98E.FBS8GQDG.kvhDSsBBGXSDEBPSWfbRABF.Y."),
    ('j', "000000000000000000000000000.c9B.G.P8a9EfD.ESDU7BYE.9EF9D.BX7d79CA8DD."),
    ('k', "000000000000000000000000000.gGE.k.WAXanIco..XJAD..RD..C.RUH9NACQEBSF."),
    ('l', "000000000000000000000000000.g.D.b.YDaBYSQXdeDS9BX.7BGHBa8DECWOBPFAET."),
    ('m', "000000000000000000000000000.jdd.k.YDQRQHFRZSCQ8BSfRBGGR.7CEBOBBQY9ED."),
    ('n', "000000000000000000000000000.e.F.f.q.IEUH9gkSFeBD.f9E..DQ9.GPdWDIGBHJ."),
    ('o', "000000000000000000000000000..B97H.E9F8EBBF.DbhPeDBAHkbRCBUqTXFFAADbg."),
    ('p', "000000000000000000000000000.XOa.V.VBfRFIQ.TESH79EU.9XFFQ.fD9GD9PB8DB."),
    ('q', "000000000000000000000000000.B6..A.8.8.8..8A..7.........7....7........"),
    ('r', "000000000000000000000000000.kPE.Z.RElDPWRagSEUAS..8D..BQ9EGOcPDYQBGY."),
    ('s', "000000000000000000000000000.iUE.b.cDHD.aRIZaE.ADS.8Dg.BW8EGB.Ba.FBGF."),
    ('t', "000000000000000000000000000.lOD.j.TDdRfFRbhDDRABbYRRS.BYRbFCTDBSaAFF."),
    ('u', "000000000000000000000000000.WB7.F.B9D7D9ADPBYbASB99DUUDB9FFBUFU89Dbg."),
    ('v', "000000000000000000000000000.lWY.c.a9ERQEDdP8BX8A9h.A899EWB78Z89GB.7C."),
    ('w', "000000000000000000000000000.E97.D.C8S7B99D.SAE..TA.7UG.A.7D7E7.889E8."),
    ('x', "000000000000000000000000000.B7..9.7.8.8..8B..7.........7....7........"),
    ('y', "000000000000000000000000000.S7..D.Q.U.ADQBBBCE88B77BXTAQ7PGARKA6YBGP."),
    ('z', "000000000000000000000000000.jB9.e.bAX8bFU.WdAF78bD.8XG8e.AD9N98BQ9DB."),
    ('ß', "0...................................................................."),
    ('á', "nQaRbGEkR7ZcjXt.VAuqdHaEAEX.G...F.B.D.C9AB...U9..87S..BB8V..Y.B79..E."),
    ('â', "0ECEDCADBW8BOWjBB.UEFOA967G...............9................9.9......."),
    ('ä', "QABAB88AA9ARCBE9A.DRY7B7..9..................B..............8.d....8."),
    ('ç', "8F...8...8.....8.....6..............................................."),
    ('é', "mGRQJDGffEGejLhHc9ltgGRDDDT.F...D.A.B.B89A...G8..7.A..9A.B..H.9.8..C."),
    ('ë', "0...................................................................."),
    ('í', "wGPVDEDQUFRHaWaFE7dUdBTB7AY.B...A.9.9.8..A...P8..7.H..U7.C..U.P7...U."),
    ('î', "BBBCBB8BAB7ADWh9A.BCD997..9...............8................7.O......."),
    ('ó', "oDSKkFFQGMFFXFSFP8iYRDFk8CV.D...B.D.A.9788.79D..7..8mD78.7B.C.7..SXA."),
    ('ô', "99A9A879989CRBD8D.WRF7R...8..................9.....R..R.....7......R."),
    ('ö', "7.RFQFDIFGEWfQdEG7gaaDQB7Ah.C...B.8.9.9.7..............8............."),
    ('ú', "ZDRRRBAUCCIRSEUDP.RVRDD8.8O.9...8...7....7...E.....7..7..P..B.7....C."),
    ('ü', "BDECECBEDDBRkQ8BC.SBQAF8.8R.A...9...8.7.............................."),
    ('ý', "v..bIFE..G.R.PPF.8IR.D.D8BR.B...A.A.8..7.B...F9..87B..B.8D..R.B7...I."),
    ('ă', "/..OO..B.OE..PO.GAfTbT.EABT..9.....8.......................E.W......."),
    ('ą', "eFEgiDADDEESFF.DD..XeB8E.BE.........7.......S.......BC....A.......g.."),
    ('ć', "veBBSX8BAbDFDSFGB.EEDSBS.DA.........9......879..8...88....7.8.....78."),
    ('č', "adDEEnDGGzTbSEYXG7TCXIDB7EF.U.B.C.b.EA.E....9B78.C.A..9.79..D.9A...D."),
    ('ď', "Ya878D.77D7A98BD7.AAAD8..87.a...8.9......9...7...7..........8........"),
    ('đ', "RiA8Ai7A9XBDBBD.9.CDBbA..88..................8..............7......7."),
    ('ę', "gFETgDAIDEESFF.DX..SeB8F.BT.........7.......d.......BC....X.......b.."),
    ('ě', "WDEQQBADDBUeVRUBP.Fae9E9.7P.8...7.7......8...BP.......7..P..E......A."),
    ('ĺ', "ADR.7B...B.R779BR.8889...7..8............8.........................R."),
    ('ľ', "ZdA9BG799.DSBBES9.DGCdA..B8.C...A.A.8..8.C...A..............D......7."),
    ('ł', "ekESFSBTD.EdGHcrD...Ti9S.bF.........d......iS...C...CD....B......7B.."),
    ('ń', "q.FXG.BFE.F.HG..F..n..9G..G.........E......D8...D...DD....B......7B.."),
    ('ň', "dY99CF799G9CBADQ9.CCBD9..B8.B...A.A.8..7.B...9...8..........9..E...7."),
    ('ő', "oFQDFDCGEQQQQGFCD.UVUBU9.9R.B...A.7.8.8................7............."),
    ('ŕ', "ADW.RB...C.9879B..988A7..8..8...7.7......8...7........R.....R........"),
    ('ř', "PPBBCl8BBaBEDC..B.ECF.B7.DA.U...C.j.7..8.E...9...A.......8..C..9...8."),
    ('ś', "e.DjE.9DC.DHgSJ.D.bGF.7i..D.........C......Bl...B...BS....9.......9.."),
    ('ş', "ZaAOB.8A9h7BCBET9.DBiP87.B9..9.....8......G................7.7......."),
    ('š', "aTDEEeDCEbSiSSYaG7FTtSJB7FF.G.9.D.U.E8.C7F..St87.F.R..9..C..P.WD...D."),
    ('ţ', "ScBBBT8BAl7HCBE.A.DBDO87.B9..9.....8......Z................7.7......."),
    ('ť', "oaA9RF799G9CBBDP9.DCBD9..B8.B...A.9.8..8.B...9..............7......7."),
    ('ů', "VBCBD99BBABFED.AB.FP.8R8.6B.7.....7......7...A........U..8..D......a."),
    ('ű', "dCCQDBADBBQQEDFAB.aQE9U7.7Q.9...8...................................."),
    ('ź', "VD89TE.98G8BS9SE8.XBAC.9.B9.........8......7....7...7S..............."),
    ('ż', "efDSSg9DCODXEDbbD.GGF.7E.hD.........b......B7...T...BB....9.......9.."),
    ('ž', "cdDBTi9BBfSRUSVRD.RKFgC8.EB.R.8.D.S.B7.A.E..8DP7.B.7..7..8..K.7A...9."),
    ('ˇ', "0....................................................................")]

/-! ## Baltic languages

Lithuanian and Latvian. -/

/-- The letters of Baltic languages, and how usual their pairs are. -/
def baltic : Alphabet where
  isLatin := true
  rows := [
    (' ', "0000000000000000000000000000000000000000000000VR0b0VM8R0JaT0R00Q0000i00R000g0"),
    ('a', "000000000000000000000000000....................B.T.J.A...BX.X..O....f..G...c."),
    ('b', "000000000000000000000000000...................ZB.E.YW99..AA.B..D....F..aa..C."),
    ('c', "000000000000000000000000000....................8.9.RE...S77.9..A....B..MD..9."),
    ('d', "000000000000000000000000000...................UC.D.beAA.YBB.D..E....G..IT..f."),
    ('e', "000000000000000000000000000...................N9.a.FG7H.G8I.b..R....m..E...W."),
    ('f', "000000000000000000000000000...................I8.8.ID...E7..8..9....B..CJ..8."),
    ('g', "000000000000000000000000000...................RB.C.OZ98.GBA.I..C....I..RS..D."),
    ('h', "000000000000000000000000000...................J8.9.IF7..F8..8..9....B..DJ..9."),
    ('i', "000000000000000000000000000...................WB.V.H.9R.HAS.S..v....n..Rn...."),
    ('j', "000000000000000000000000000...................dC.D.TKA9.EBA.C..E....F..hZ..D."),
    ('k', "000000000000000000000000000...................lR.R.IRRA.ICB.a..E....c..Rc..E."),
    ('l', "000000000000000000000000000...................hD.E.beBA.kCB.D..F....R..aa..I."),
    ('m', "000000000000000000000000000...................kD.I.ZhAA.LBB.D..E....E..XY..E."),
    ('n', "000000000000000000000000000...................kF.R.QnCB.cDD.E..G....I..Kd..G."),
    ('o', "000000000000000000000000000...................E9.H.E.8D.E8E.G..T....F..C...R."),
    ('p', "000000000000000000000000000.......E...........aB.D.gYR8.MA9.R..B....R..LD..B."),
    ('q', "000000000000000000000000000.................................................."),
    ('r', "000000000000000000000000000...................oZ.F.XfRB.jDG.E..G....W..YY..Z."),
    ('s', "000000000000000000000000000.......7...........VW.R.RbRC.bED.F..H........c..G."),
    ('t', "000000000000000000000000000...................rD.E.UnRB.fCB.E..F....I..Wf..R."),
    ('u', "000000000000000000000000000...................U8.K.JF.F.G7G.S..G....L..D...W."),
    ('v', "000000000000000000000000000...................jB.C.ld99.fAA.C..D....F..II..C."),
    ('w', "000000000000000000000000000.................................................."),
    ('x', "000000000000000000000000000.................................................."),
    ('y', "000000000000000000000000000......................R..A...............S..7C..D."),
    ('z', "000000000000000000000000000...................YR.A.bF78.Y89.A..G....D..RP..B."),
    ('ß', "0............................................................................"),
    ('á', "0............................................................................"),
    ('â', "0............................................................................"),
    ('ã', "0............................................................................"),
    ('ä', "0............................................................................"),
    ('å', "0............................................................................"),
    ('æ', "0............................................................................"),
    ('é', "B............................................................................"),
    ('ë', "0............................................................................"),
    ('í', "0............................................................................"),
    ('î', "0............................................................................"),
    ('ó', "0............................................................................"),
    ('ô', "0............................................................................"),
    ('õ', "0............................................................................"),
    ('ö', "0............................................................................"),
    ('ø', "0............................................................................"),
    ('ú', "0............................................................................"),
    ('û', "0............................................................................"),
    ('ü', "0............................................................................"),
    ('ā', "i.YZc.RKHRdgkXkHR.smj.U...N...................G..F.D..R.D.D.M..T.......B...S."),
    ('ą', "MBB7B97B8BDDDCE9A.ReD8B...8......................8..................9...8..Z."),
    ('ć', "0............................................................................"),
    ('č', "BRC9Db8C9pDEEDGKD.FHEOE..DA...................G8.9.DD7..J8..7..8....A..TF..9."),
    ('đ', "0............................................................................"),
    ('ē', "G..XIFDWEHbffIaEH.gajFS...a...................D..C.A..P.A.B.Y..I....G..8...D."),
    ('ė', "t..EWGE.F.cRZYe...WagFR..AF......................F..C...............G..8E..R."),
    ('ę', "MA9.97.9.99BAAB88.BZB.9.............................................7......R."),
    ('ģ', "D.9.AR.8.c9AAABE8.BCBJ9...8...................D....R....A...........7..8....."),
    ('ĩ', "0............................................................................"),
    ('ī', "R.kTYGEhEHRGQEWEJ.dRjGe...M...................D..E.A..R.A.B.E..I....R..9...D."),
    ('į', "MBA.A8.A7ARBRRD89.CVC7R...7......................7..................8...7..7."),
    ('ķ', "E.A7BT.A.dABBBDF9.CDGGA...9...................E....B....Z...........8..R....."),
    ('ĸ', "0............................................................................"),
    ('ļ', "RgR9GEEB8XEIEEERB.GGEXC...A...................E..7.D..E.D...7..8....R..R...8."),
    ('ł', "0............................................................................"),
    ('ń', "0............................................................................"),
    ('ņ', "0aDAET9C9fEEFEGSB.GEFdD...B...................W..8.E....E...8..9....n..I...8."),
    ('ŋ', "0............................................................................"),
    ('ō', "0............................................................................"),
    ('ŗ', "0............................................................................"),
    ('ś', "0............................................................................"),
    ('š', "efFRSaBEBqReFRDTR.IRfjY..ZD...................G9.R.RR77.H8X.A..R....D..RJ..A."),
    ('ŧ', "0............................................................................"),
    ('ũ', "0............................................................................"),
    ('ū', "MGGCdDIGCEHZTRYCI.aeTDS..7T...................B..F.88.8.9.R.B..R....E..7A..B."),
    ('ų', "x..G..G............V.....C.....................8....E....7.............AH...."),
    ('ź', "0............................................................................"),
    ('ż', "0............................................................................"),
    ('ž', "NcG9Df8D9lDREbRTE.FRFVR..SB...................LR.9.GW7..M8..8..8....R..G...A."),
    ('ˇ', "0............................................................................")]

/-! ## Icelandic and Faroese -/

/-- The letters of Icelandic and Faroese, and how usual their pairs are. -/
def icelandic : Alphabet where
  isLatin := true
  rows := [
    (' ', "00000000000000000000000000000n0000RA0R000j00000X00cb0b0EG/00000"),
    ('a', "000000000000000000000000000..F....FF.B...a..t..K..EG.G.8F......"),
    ('b', "000000000000000000000000000..b....h..B...U..E..b..DE.X.EdB....."),
    ('c', "000000000000000000000000000..B....B..7...D..B..F..BC.E..B8....."),
    ('d', "000000000000000000000000000..F....D..B...U..F..a..DE.L.8EC....."),
    ('e', "000000000000000000000000000..D....D8.9...E..a..I..CC.H..CH....."),
    ('f', "000000000000000000000000000..D....F..A...M..J..S..Tn.H..bA....."),
    ('g', "000000000000000000000000000..G....R..B...T..F..i..FG.U.8GD....."),
    ('h', "000000000000000000000000000..X....E..V...N..D..F..aI.W..DB....."),
    ('i', "000000000000000000000000000..D....C8.9...F..k..E..BE.F..D......"),
    ('j', "000000000000000000000000000..X....E..A...M..E..m..mi.i..CB....."),
    ('k', "000000000000000000000000000..H....R..E...U..H..e..DE.b.9GF....."),
    ('l', "000000000000000000000000000..c....D..E...i..G..X..Di.Q.9SR....."),
    ('m', "000000000000000000000000000..j....A..E...T..G..N..HG.I.8GD....."),
    ('n', "000000000000000000000000000..G.7..W..E...i.....N.....Z.AdR....."),
    ('o', "000000000000000000000000000..C....B7.8...E..a..E..AC.D..CF....."),
    ('p', "000000000000000000000000000..I....D..E...O..D..L..FD.N..CA....."),
    ('q', "000000000000000000000000000..7....7......B.....9.....9........."),
    ('r', "000000000000000000000000000..b.7..i..W...h..r..d..Td.d.EGG....."),
    ('s', "000000000000000000000000000..S.E..S..G...a..I..W..Wb.R.ASG....."),
    ('t', "000000000000000000000000000..J....W..H...i..H..j..JE.g.9LE....."),
    ('u', "000000000000000000000000000..E....B..8...D..h..F..BC.E..CG....."),
    ('v', "000000000000000000000000000..b....S..A...r..E..E..Hb.A..DB....."),
    ('w', "000000000000000000000000000..A....9......E..9..B..8A.B..A......"),
    ('x', "000000000000000000000000000..7....7......J.....9.....9........."),
    ('y', "000000000000000000000000000..9....8......D..b..B..89.B..9C....."),
    ('z', "000000000000000000000000000..F....7......C..8..A..78.A..8......"),
    ('ß', "0.............................................................."),
    ('à', "0.............................................................."),
    ('á', "iGGBSFEbEDFSeIcCE7cVibF979D..8....8......F..T..A..7..A...F....."),
    ('â', "0.............................................................."),
    ('ã', "8..............E..............................................."),
    ('ä', "0.............................................................."),
    ('å', "0.............................................................."),
    ('æ', "HFFBRDRDDCIBcSVBD7hScBE8.87..8....7......B..c..A.....9...B....."),
    ('ç', "9F...8...9.....8.....8........................................."),
    ('è', "0.............................................................."),
    ('é', "EBA7B99R99AHFGE89.VEVFA.E................8..9............7....."),
    ('ê', "0.............................................................."),
    ('ë', "0.............................................................."),
    ('ì', "0.............................................................."),
    ('í', "paRDNNDnFFEjZaeEHBWniaMDBDB..D....B..8...8..Q..H..B..D..9D....."),
    ('î', "0.............................................................."),
    ('ï', "0.............................................................."),
    ('ð', "zlFBFSFFSjSEGWRbD.WRHxc9.G8..E....E..9...D..D..B..DB.8..BA....."),
    ('ñ', "0.............................................................."),
    ('ò', "0.............................................................."),
    ('ó', "bLNEHGaKWEDckSbEU9jSYFOB9B9..A....A......F..u..D..9..D..7E....."),
    ('ô', "0.............................................................."),
    ('õ', "0.............................................................."),
    ('ö', "REEAECdRDBDXXHYAC.hS.BD8R8...7...........B..R..9.....9...A....."),
    ('ø', "0FEBbCBnDECLcFcCC.rIFCcA.98.................E.................."),
    ('ù', "0.............................................................."),
    ('ú', "gcNEMJ9OADFOiNeHM9beQEMBFB9..A....9......F..8..D..9..C..7E....."),
    ('û', "0.............................................................."),
    ('ü', "B8.....8...98EA...EE9.........................................."),
    ('ý', "RFDBECEcDDIGGFGCG.cXQbD9.97..............9..K..7.....7...8....."),
    ('þ', "0eB8CjACBcWFEDFaA.WGE.V..D...R....R..7...H..A..W..A..b..K8....."),
    ('ÿ', "0.............................................................."),
    ('œ', "0.............................................................."),
    ('š', "0.............................................................."),
    ('ž', "0.............................................................."),
    ('ˆ', "0..............................................................")]

/-! ## Turkish

The letter i has a dot in both cases or in none. -/

/-- The letters of Turkish, and how usual their pairs are. -/
def turkish : Alphabet where
  isLatin := true
  capitals := [('I', 'ı'), ('İ', 'i')]
  rows := [
    (' ', "0000000000000000000000000000009B00E0p0900070000770o0000b00j0o00"),
    ('a', "0000000000000000000000000000..89..7.T.8...D.......F......k..d.."),
    ('b', "0000000000000000000000000000..D9....G.8...........R....d.B..D.."),
    ('c', "0000000000000000000000000000..78....D.7........DE.E....F.BV.C.."),
    ('d', "0000000000000000000000000000..89..7.D.8...........Q....W.Bi.D.."),
    ('e', "0000000000000000000000000000...7....M.............D....F.b..j.."),
    ('f', "0000000000000000000000000000........D.............Q....E.8G.A.."),
    ('g', "0000000000000000000000000000..7Q....D.7...........d....k.BS.C.."),
    ('h', "0000000000000000000000000000..7Q....R.7...........E....V.AG.B.."),
    ('i', "0000000000000000000000000000..78....a.7........D..D....G.V..g.."),
    ('j', "0000000000000000000000000000........9.............9....B.7D.8.."),
    ('k', "0000000000000000000000000000..9Q..8.V.9...7....77.f....g.Dm.D.."),
    ('l', "0000000000000000000000000000..FQ..8.V.D...7....77......e.Dj.Q.."),
    ('m', "0000000000000000000000000000..D9..D.G.D...........G....V.CW.E.."),
    ('n', "0000000000000000000000000000..AB7.8.R.A...8....887.....R.EZ.G.."),
    ('o', "0000000000000000000000000000........R.............B....E.eG.F.."),
    ('p', "0000000000000000000000000000...7....L.D...........D....D.9..B.."),
    ('q', "0000000000000000000000000000...........................7..9...."),
    ('r', "0000000000000000000000000000..AB..8...D...D....87.G....Z.Ed.c.."),
    ('s', "0000000000000000000000000000..9AD.8.J.9...7....77.E....I.Di.E.."),
    ('t', "0000000000000000000000000000..9A..8.Z.9...7....77.D....h.Dd.E.."),
    ('u', "0000000000000000000000000000..D.....J.............B....D.VF.Z.."),
    ('v', "0000000000000000000000000000..77....C.7..........DD....G.AF.Q.."),
    ('w', "0000000000000000000000000000........8.............9....B..D.7.."),
    ('x', "0000000000000000000000000000..............................7...."),
    ('y', "0000000000000000000000000000..........D...........A....c.Fg.F.."),
    ('z', "0000000000000000000000000000...7....B.............D....F.9R.B.."),
    ('i', "0000000000000000000000000000..78....a.7........D..D....G.V..g.."),
    ('ß', "0.............................................................."),
    ('à', "0.............................................................."),
    ('á', "D8777..777.898F.D.D88......7..................................."),
    ('â', "Q98887.878.AQ9B.7.QAA.7...78........7....................Q....."),
    ('ã', "8..............D..............................................."),
    ('ä', "0.............................................................."),
    ('å', "A7.........7G78...877.........................................."),
    ('æ', "0.............................................................."),
    ('ç', "hhEDEkBDDe9G.F.ZC.FGGGC8.GBe...7....K.............D....V.9V.B.."),
    ('è', "0.............................................................."),
    ('é', "F8777..777.89FA...988...D..7..................................."),
    ('ê', "0.............................................................."),
    ('ë', "0.............................................................."),
    ('ì', "0.............................................................."),
    ('í', "9..........77.DD..777.........................................."),
    ('î', "0.............................................................."),
    ('ï', "0.............................................................."),
    ('ñ', "0.............................................................."),
    ('ò', "0.............................................................."),
    ('ó', "D..........77.7...D77.........................................."),
    ('ô', "9...........7.7...7.E.........................................."),
    ('õ', "8.................D............................................"),
    ('ö', "DFDERDBEDF9VZQWBQ.bFQBD8.bfF........C.............D....8.V9.B.."),
    ('ø', "0.............................................................."),
    ('ù', "0.............................................................."),
    ('ú', "0.............................................................."),
    ('û', "0.............................................................."),
    ('ü', "k.SGVFD.GGBeZRkEF7lRXDQB.VbG........V.............8....A.BB.D.."),
    ('ÿ', "0.............................................................."),
    ('ğ', "aZBBYQ8BAZ7DYCEH9.bDDcA..F9Z........9.............A....C.7Z.8.."),
    ('ı', "x.FVD.F...DgkZfGGDlXRQHC7Fc.........V.............9....B.VD.Z.."),
    ('œ', "0.............................................................."),
    ('ş', "khQCDjACBe8aVGDRB.GERVB7..Be...7....K.............B....Q.8Y.A.."),
    ('š', "0.............................................................."),
    ('ˆ', "0..............................................................")]

/-! ## Vietnamese

Tones are marks of their own here, which follow the letter. -/

/-- The letters of Vietnamese, and how usual their pairs are. -/
def vietnamese : Alphabet where
  isLatin := true
  rows := [
    (' ', "000000000000000000000000000000M0E0B000000000R00000D0Nx0S0000000"),
    ('a', "000000000000000000000000000.....7.D...............8.F.....wqYjh"),
    ('b', "000000000000000000000000000...Q......S......O.....D.aC.F......."),
    ('c', "000000000000000000000000000...Y.7...........M.....8.FD.OR......"),
    ('d', "000000000000000000000000000...O...................7.GB.ET......"),
    ('e', "000000000000000000000000000...D......E......E.......B..DD.ISN.U"),
    ('f', "000000000000000000000000000...B......B......B.......98.AB......"),
    ('g', "000000000000000000000000000.....7...........X.....8.NE..Y......"),
    ('h', "000000000000000000000000000...g.8....Z......h.....8.OE.Xi......"),
    ('i', "000000000000000000000000000...H...7..q............7.E..RN.gfXOc"),
    ('j', "000000000000000000000000000...B......B......B.......98.AB......"),
    ('k', "000000000000000000000000000...F......R......H.....7.EC.FF......"),
    ('l', "000000000000000000000000000...N.7....N......P.....8.DD.RR......"),
    ('m', "000000000000000000000000000...P.D...........R.....8.QD.ON......"),
    ('n', "000000000000000000000000000.....9.D..O......S.....A.U...V......"),
    ('o', "000000000000000000000000000...E......F......F.......N..DE.chRXc"),
    ('p', "000000000000000000000000000...E......G......G.....D.DB.EE......"),
    ('q', "000000000000000000000000000...A......B......B.......98.AA......"),
    ('r', "000000000000000000000000000...P.7....N......J.....D.aE.NR......"),
    ('s', "000000000000000000000000000.....7...........U.....7.FD.R......."),
    ('t', "000000000000000000000000000...X.8....G......b.....8..E..X......"),
    ('u', "000000000000000000000000000...O......N......a.......B..DD.WZYaQ"),
    ('v', "000000000000000000000000000...N......R......O.......OA.SH......"),
    ('w', "000000000000000000000000000...B......D......D.......A9.BB......"),
    ('x', "000000000000000000000000000...N......F......D.......87.GQ......"),
    ('y', "000000000000000000000000000...B......d......B.......9D.AB.PUHN."),
    ('z', "000000000000000000000000000...B......C......C.......A8.BB......"),
    ('ß', "0.............................................................."),
    ('à', "0.............................................................."),
    ('á', "0.............................................................."),
    ('â', "0.EFDD9G.G9EFSXED9.F.LCB9UA...9......A......A.......8B.89.eZOVZ"),
    ('ä', "0.............................................................."),
    ('å', "A7......7...G.8.....7.....................................77..."),
    ('æ', "0.............................................................."),
    ('ç', "9F...7...8.....7.....7........................................."),
    ('è', "0.............................................................."),
    ('é', "0.............................................................."),
    ('ê', "T.F.EEA...AF.OdFEA...NDB9BB...A......B......B.......8C.9A.djRWi"),
    ('ë', "0.............................................................."),
    ('í', "0.............................................................."),
    ('î', "0.............................................................."),
    ('ï', "0.............................................................."),
    ('ñ', "0.............................................................."),
    ('ó', "0.............................................................."),
    ('ô', "Y.F.EEAF.RAF.ReFEA..EEDB9BB...A......B......B.......8C.9A.ehURc"),
    ('ö', "0.............................................................."),
    ('ø', "0.............................................................."),
    ('ù', "0.............................................................."),
    ('ú', "0.............................................................."),
    ('û', "0.............................................................."),
    ('ü', "B8.7...777.D7D9...DD7.....................................78..7"),
    ('ÿ', "0.............................................................."),
    ('ă', "0FDDCC8EFE8CEUXCB8EDFBB9798...8......8......8.......7A.78.UcNNa"),
    ('đ', "0cCDBR8EEZ8CDD.XB8EDE.A97F8...W......Y......e.......V9.CV......"),
    ('œ', "0.............................................................."),
    ('ơ', "S.EFDD9F.F9DFNaDD9GE.DDA8A9...8......9......9.......7B.88.ffDUW"),
    ('ư', "TDEFDD9G.G9EFFRED9.F.DCA9BA...9......A......A.......8B.m9.OZcTR"),
    ('ˆ', "0.............................................................."),
    ('\u0300', "qY....B..hB..NwZ.B...gFDBVC...C......D......D.......BE.BC......"),
    ('\u0301', "qV.k..D..jD.DVrPRCG.hXDEBSD...D......E......E.......BF.DD......"),
    ('\u0303', "jNEFDE9F.W9DFFgGC9FE.OBA8B9...9......A......A.......8B.99......"),
    ('\u0309', "kVF.ENA..XAE.UhKEA.G.PDB9QA...A......B......B.......9B.AA......"),
    ('\u0323', "eN.jG.B..cB..XhSXB..iOECAIB...B......C......C.......AD.BB......")]

end StyleCheck.Charset.Alphabet
